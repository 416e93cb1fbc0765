import Issuance.Proofs.Storage.RealPaths
import Issuance.Proofs.Storage.Records
import Issuance.Proofs.Storage.Effects
/-!
Stores on a disk are confined to what lies strictly below their roots.

A key leads to a place below the root or is refused before anything is done. What is done is a list
of changes, and each of them stays below the root; what is answered is the same on any two disks
that agree below the root, so no file elsewhere is read. `Disk.serve_view` tells that without links
this is the volume beneath the root.
-/

namespace Issuance
namespace Storage

variable {α : Type} {root place path : Path}

/-- A place lies strictly below another one. -/
def IsBelow (root place : Path) : Prop := ∃ path, path ≠ [] ∧ place = root ++ path

namespace Disk

variable {disk other : Disk α} {store : Store} {conditions : Conditions α} {content : α}

/-- A store is set up on a disk, its root being a real place that is not the root of the disk and no
link being below it. -/
structure Holds (disk : Disk α) (store : Store) (root : Path) : Prop where
  working : IsReal disk.links disk.working
  rooted : disk.realPath store.root = .ok root
  proper : root ≠ []
  linkFree : ∀ place, root <+: place → Assoc.get? place disk.links = none

theorem Holds.real (holds : disk.Holds store root) : IsReal disk.links root :=
  isReal_realPath holds.working holds.rooted

theorem Holds.isPlainPath (holds : disk.Holds store root) : IsPlainPath root :=
  ⟨holds.proper, holds.real.plain⟩

theorem Holds.realText_root (holds : disk.Holds store root) :
    disk.realText store.root = absolute root := by
  simp only [realText, holds.rooted]

/-- A key is taken if its real path lies strictly below the root, and is refused otherwise. -/
theorem placeFor_cases (holds : disk.Holds store root) (key : String) :
    (∃ path, IsPlainPath path ∧
        disk.realText (join (absolute root) key) = absolute (root ++ path) ∧
          disk.placeFor store key = .ok (root ++ path)) ∨
      (∀ path, path ≠ [] →
        disk.realText (join (absolute root) key) ≠ absolute (root ++ path)) ∧
        disk.placeFor store key = .error (.escapingKey key) := by
  obtain ⟨place, plain, spelled⟩ :=
    disk.realText_cases holds.working (join (absolute root) key)
  unfold placeFor
  simp only [holds.realText_root]
  by_cases begins : (absolute root ++ "/").toList <+:
      (disk.realText (join (absolute root) key)).toList
  · rcases spelled with single | doubled
    · rw [single, isPrefix_absolute_iff holds.isPlainPath plain] at begins
      obtain ⟨⟨path, rfl⟩, proper⟩ := begins
      have inside : path ≠ [] := by
        rintro rfl
        exact proper (List.append_nil root).symm
      have different : absolute (root ++ path) ≠ absolute root := by
        intro same
        have places := congrArg (destination []) same
        rw [destination_absolute plain, destination_absolute holds.real.plain] at places
        exact proper places.symm
      have prefixed := (isPrefix_absolute_iff holds.isPlainPath plain).2
        ⟨List.prefix_append root path, proper⟩
      refine Or.inl ⟨path, ⟨inside, fun name member => ?_⟩, single, ?_⟩
      · exact plain name (List.mem_append_right root member)
      · rw [single, List.isPrefixOf_iff_prefix.2 prefixed, decide_eq_false different,
          destination_absolute plain]
        rfl
    · rw [doubled] at begins
      exact absurd begins (not_isPrefix_of_doubled holds.isPlainPath place)
  · refine Or.inr ⟨fun path inside same => begins ?_, ?_⟩
    · rw [same, absolute_append holds.proper inside]
      exact ⟨(keyOf path).toList, String.toList_append.symm⟩
    · rw [← List.isPrefixOf_iff_prefix, Bool.not_eq_true] at begins
      rw [begins, Bool.not_false, Bool.or_true, if_pos rfl]

/-- The place of a key that is taken lies strictly below the root. -/
theorem isBelow_of_placeFor (holds : disk.Holds store root) {key : String}
    (found : disk.placeFor store key = .ok place) : IsBelow root place := by
  rcases placeFor_cases holds key with ⟨path, plain, -, taken⟩ | ⟨-, refused⟩
  · cases taken.symm.trans found
    exact ⟨path, plain.nonempty, rfl⟩
  · cases refused.symm.trans found

/-- No link is met on the way of a key, other than on the way to the root or below it. -/
def IsClear (disk : Disk α) (root : Path) (key : String) : Prop :=
  ∀ front, front <+: components key → ∀ place,
    place = front.foldl walk (if key.toList.head? = some '/' then [] else root) →
      ¬root <+: place → ¬place <+: root → Assoc.get? place disk.links = none

/-- If no link is met on the way, a key leads where its components lead. -/
theorem realText_of_isClear (holds : disk.Holds store root) {key : String}
    (clear : disk.IsClear root key) :
    disk.realText (join (absolute root) key) = absolute (destination root key) := by
  have free : ∀ front, front <+: components key → ∀ place,
      place = front.foldl walk (if key.toList.head? = some '/' then [] else root) →
        place ≠ [] → Assoc.get? place disk.links = none := by
    intro front above place met inside
    by_cases below : root <+: place
    · exact holds.linkFree place below
    · by_cases onTheWay : place <+: root
      · exact holds.real.linkFree place inside onTheWay
      · exact clear front above place met below onTheWay
  simp only [realText, realPath_join holds.real holds.proper,
    follow_of_clear fun front above inside => free front above _ rfl inside]
  rfl

theorem placeFor_of_isClear (holds : disk.Holds store root) {key : String}
    (clear : disk.IsClear root key) :
    disk.placeFor store key = (resolve root key).map (root ++ ·) := by
  have spelled := realText_of_isClear holds clear
  rcases placeFor_cases holds key with ⟨path, plainPath, found, taken⟩ | ⟨nowhere, refused⟩
  · have plain : ∀ name ∈ destination root key, IsPlain name :=
      fun name member => isPlain_of_mem_destination holds.real.plain member
    have whole : ∀ name ∈ root ++ path, IsPlain name := by
      intro name member
      rcases List.mem_append.1 member with above | below
      · exact holds.real.plain name above
      · exact plainPath.plain name below
    have same := congrArg (destination []) (spelled.symm.trans found)
    rw [destination_absolute plain, destination_absolute whole] at same
    rw [taken, resolve_eq_ok_iff.2 ⟨plainPath.nonempty, same⟩]
    rfl
  · rw [refused, resolve_eq_error fun path inside there =>
      nowhere path inside (spelled.trans (congrArg absolute there))]
    rfl

/-- The real path of a key, joined to the root, lies strictly below the root. -/
def LeadsBelow (disk : Disk α) (root : Path) (key : String) : Prop :=
  ∃ path, path ≠ [] ∧ disk.realText (join (absolute root) key) = absolute (root ++ path)

theorem placeFor_of_leadsBelow (holds : disk.Holds store root) {key : String}
    (leads : disk.LeadsBelow root key) : ∃ place, disk.placeFor store key = .ok place := by
  rcases placeFor_cases holds key with ⟨path, -, -, taken⟩ | ⟨nowhere, -⟩
  · exact ⟨_, taken⟩
  · obtain ⟨path, inside, found⟩ := leads
    exact absurd found (nowhere path inside)

theorem placeFor_of_not_leadsBelow (holds : disk.Holds store root) {key : String}
    (escapes : ¬disk.LeadsBelow root key) :
    disk.placeFor store key = .error (.escapingKey key) := by
  rcases placeFor_cases holds key with ⟨path, plain, found, -⟩ | ⟨-, refused⟩
  · exact absurd ⟨path, plain.nonempty, found⟩ escapes
  · exact refused

/-- Two disks agree but for the contents of files that are not strictly below a root. -/
structure AgreeBelow (root : Path) (disk other : Disk α) : Prop where
  working : other.working = disk.working
  links : other.links = disk.links
  folders : other.folders = disk.folders
  paths : other.files.map Prod.fst = disk.files.map Prod.fst
  contents : ∀ place, IsBelow root place → other.tree.file? place = disk.tree.file? place

namespace AgreeBelow

theorem alike (agree : AgreeBelow root disk other) : Volume.Alike disk.tree other.tree :=
  ⟨rfl, agree.folders, agree.paths⟩

theorem realText (agree : AgreeBelow root disk other) (text : String) :
    other.realText text = disk.realText text := by
  unfold Disk.realText realPath
  rw [agree.working, agree.links]

theorem placeFor (agree : AgreeBelow root disk other) (store : Store) (key : String) :
    other.placeFor store key = disk.placeFor store key := by
  simp only [Disk.placeFor, agree.realText]

theorem locate (agree : AgreeBelow root disk other) (store : Store) (ref : String) :
    other.locate store ref = disk.locate store ref := by
  simp only [Disk.locate, agree.placeFor]

theorem lookup (agree : AgreeBelow root disk other) (below : IsBelow root place) :
    other.tree.lookup place = disk.tree.lookup place :=
  agree.alike.lookup (agree.contents place below)

end AgreeBelow

theorem locate_of_ofText {ref key : String}
    (parsed : Reference.ofText ref = .ok ⟨store.name, key⟩) :
    disk.locate store ref = disk.placeFor store key := by
  simp only [locate, parsed, bind, Except.bind, if_true]

theorem isBelow_of_locate (holds : disk.Holds store root) {ref : String}
    (found : disk.locate store ref = .ok place) : IsBelow root place := by
  unfold locate at found
  cases parsed : Reference.ofText ref with
  | error fault =>
      rw [parsed] at found
      cases found
  | ok r =>
      simp only [parsed, bind, Except.bind] at found
      split at found
      · exact isBelow_of_placeFor holds found
      · cases found

/-- The answer of a store to a call, and what it does to the disk. -/
def serve (conditions : Conditions α) (disk : Disk α) (store : Store) :
    Call α → Exchange α × List (Change α)
  | .put key content =>
    let (answer, changes) := disk.put conditions store key content
    (.put key content answer, changes)
  | .read ref => (.read ref (disk.read store ref), [])
  | .contains ref => (.contains ref (disk.contains store ref), [])
  | .delete ref =>
    let (answer, changes) := disk.delete store ref
    (.delete ref answer, changes)
  | .list keyPrefix => (.list keyPrefix (disk.list store keyPrefix), [])

theorem within_put (holds : disk.Holds store root) {key : String} {change : Change α}
    (member : change ∈ (disk.put conditions store key content).2) :
    change.Within (IsBelow root) := by
  unfold put at member
  cases found : disk.placeFor store key with
  | error fault =>
      rw [found] at member
      cases member
  | ok place =>
      simp only [found] at member
      have below := isBelow_of_placeFor holds found
      refine Volume.within_writePlan below (fun name => ?_) member
      obtain ⟨path, inside, rfl⟩ := below
      refine ⟨path.dropLast ++ [name], ?_, ?_⟩
      · exact List.append_ne_nil_of_right_ne_nil _ (List.cons_ne_nil _ _)
      · rw [List.dropLast_append_of_ne_nil inside, List.append_assoc]

/-- Whatever a store is asked, it touches files strictly below its root alone. -/
theorem within_serve (holds : disk.Holds store root) {call : Call α} {change : Change α}
    (member : change ∈ (disk.serve conditions store call).2) : change.Within (IsBelow root) := by
  cases call with
  | put key content => exact within_put holds member
  | read ref => cases member
  | contains ref => cases member
  | delete ref =>
      change change ∈ (disk.delete store ref).2 at member
      unfold delete at member
      cases found : disk.locate store ref with
      | error fault =>
          rw [found] at member
          cases member
      | ok place =>
          simp only [found] at member
          split at member
          · rw [List.mem_singleton.1 member]
            exact isBelow_of_locate holds found
          · cases member
  | list keyPrefix => cases member

theorem contains_eq_isOk_read (disk : Disk α) (store : Store) (ref : String) :
    disk.contains store ref = (disk.read store ref).isOk := by
  unfold contains read
  cases disk.locate store ref with
  | error fault => rfl
  | ok place => exact disk.tree.isFile_eq_isOk_lookup place

/-- Whatever a store is asked, no content of a file that is not strictly below its root counts. -/
theorem serve_congr (holds : disk.Holds store root) (agree : AgreeBelow root disk other)
    (conditions : Conditions α) (call : Call α) :
    other.serve conditions store call = disk.serve conditions store call := by
  have read : ∀ ref, other.read store ref = disk.read store ref := by
    intro ref
    unfold Disk.read
    rw [agree.locate]
    cases found : disk.locate store ref with
    | error fault => rfl
    | ok place => exact agree.lookup (isBelow_of_locate holds found)
  cases call with
  | put key content =>
      simp only [serve, put, agree.placeFor, agree.alike.writePlan]
  | read ref => simp only [serve, read]
  | contains ref => simp only [serve, contains_eq_isOk_read, read]
  | delete ref =>
      simp only [serve, delete, agree.locate]
      cases found : disk.locate store ref with
      | error fault => rfl
      | ok place => simp only [agree.lookup (isBelow_of_locate holds found)]
  | list keyPrefix =>
      simp only [serve, list, agree.placeFor, agree.realText, agree.alike.filesBelow]

theorem relative_append (root path : Path) : relative root (root ++ path) = path := by
  induction root with
  | nil => cases path <;> rfl
  | cons name rest ih => simp only [List.cons_append, relative, if_true, ih]

/-- A listing holds references to files strictly below the root alone, by their paths there. -/
theorem exists_of_mem_list (holds : disk.Holds store root) {keyPrefix : String}
    {refs : List Reference} (listed : disk.list store keyPrefix = .ok refs) {ref : Reference}
    (member : ref ∈ refs) :
    ∃ path, path ≠ [] ∧ ref = ⟨store.name, keyOf path⟩ ∧
      (disk.tree.file? (root ++ path)).isSome = true := by
  have start : destination [] (disk.realText store.root) = root := by
    rw [holds.realText_root, destination_absolute holds.real.plain]
  have fromBase : ∀ base, root <+: base →
      ref ∈ (disk.tree.filesBelow base).map
        (fun place => ⟨store.name, keyOf (relative root place)⟩) →
      ∃ path, path ≠ [] ∧ ref = ⟨store.name, keyOf path⟩ ∧
        (disk.tree.file? (root ++ path)).isSome = true := by
    rintro _ ⟨further, rfl⟩ inside
    obtain ⟨place, filed, rfl⟩ := List.mem_map.1 inside
    obtain ⟨-, -, there, ⟨rest, rfl⟩, proper⟩ := Volume.mem_filesBelow.1 filed
    rw [List.append_assoc] at there ⊢
    refine ⟨further ++ rest, ?_, by rw [relative_append], there⟩
    rintro none
    obtain ⟨rfl, rfl⟩ := List.append_eq_nil_iff.1 none
    exact proper (List.append_nil _).symm
  unfold list at listed
  simp only [start, bind, Except.bind] at listed
  split at listed
  · cases listed
    exact fromBase root (List.prefix_refl root) member
  · cases found : disk.placeFor store keyPrefix with
    | error fault =>
        simp only [found] at listed
        cases listed
    | ok base =>
        simp only [found] at listed
        cases listed
        obtain ⟨path, -, rfl⟩ := isBelow_of_placeFor holds found
        exact fromBase (root ++ path) (List.prefix_append root path) member

/-- A store that is set up by a link, next to a folder whose name goes on where the one of its root
ends. -/
def publicDisk : Disk String where
  working := ["home"]
  folders := [["home"], ["srv"], ["srv", "store"], ["srv", "store", "logos"], ["srv", "store2"]]
  files := [(["srv", "store", "logos", "club.png"], "logo"), (["srv", "store2", "plan"], "plan")]
  links := [(["pub"], "srv/store"), (["loop"], "/loop")]

def publicStore : Store := ⟨"primary", "../pub"⟩

end Disk
end Storage
end Issuance
