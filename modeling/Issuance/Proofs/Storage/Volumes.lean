import Issuance.Storage.Volume
import Issuance.Proofs.Storage.Keys
/-!
What the operations of one store do to its files. Folders may be made even when nothing is put in
the end, so a volume is compared with a later one through `GrowsTo`, which keeps every file.
-/

namespace Issuance

theorem Assoc.isSome_get?_iff {κ α : Type} [DecidableEq κ] (key : κ) (pairs : List (κ × α)) :
    (get? key pairs).isSome = true ↔ key ∈ pairs.map Prod.fst := by
  induction pairs with
  | nil => simp [get?]
  | cons pair rest ih =>
      obtain ⟨k, v⟩ := pair
      by_cases same : k = key
      · simp [get?, same]
      · have different : key ≠ k := fun equal => same equal.symm
        simp only [get?, if_neg same, ih, List.map_cons, List.mem_cons, different, false_or]

namespace Storage
namespace Volume

variable {α : Type}

theorem isFolder_mono {v w : Volume α} (more : ∀ path ∈ v.folders, path ∈ w.folders) {path : Path}
    (folder : v.isFolder path = true) : w.isFolder path = true := by
  simp only [isFolder, Bool.or_eq_true, List.contains_iff_mem] at folder ⊢
  rcases folder with atRoot | member
  · exact Or.inl atRoot
  · exact Or.inr (more path member)

theorem obstacle?_mono {v w : Volume α} (more : ∀ path ∈ v.folders, path ∈ w.folders)
    {before rest : Path} (clear : v.obstacle? before rest = none) :
    w.obstacle? before rest = none := by
  induction rest generalizing before with
  | nil => rfl
  | cons name rest ih =>
      simp only [obstacle?] at clear ⊢
      split at clear
      · cases clear
      · next short =>
          rw [if_neg short]
          split at clear
          · next folder =>
              rw [if_pos (isFolder_mono more folder)]
              exact ih clear
          · split at clear <;> cases clear

/-- Folders were made where no file stood; nothing else is different. -/
structure GrowsTo (v w : Volume α) : Prop where
  name : w.name = v.name
  root : w.root = v.root
  blocked : w.blocked = v.blocked
  full : w.full = v.full
  files : w.files = v.files
  folders : ∀ path ∈ v.folders, path ∈ w.folders
  made : ∀ path ∈ w.folders, path ∈ v.folders ∨ v.file? path = none

namespace GrowsTo

theorem refl (v : Volume α) : v.GrowsTo v :=
  ⟨rfl, rfl, rfl, rfl, rfl, fun _ member => member, fun _ member => Or.inl member⟩

theorem file?_eq {v w : Volume α} (grown : v.GrowsTo w) (path : Path) :
    w.file? path = v.file? path := by
  unfold file?
  rw [grown.files]

theorem trans {u v w : Volume α} (first : u.GrowsTo v) (second : v.GrowsTo w) : u.GrowsTo w where
  name := second.name.trans first.name
  root := second.root.trans first.root
  blocked := second.blocked.trans first.blocked
  full := second.full.trans first.full
  files := second.files.trans first.files
  folders := fun path member => second.folders path (first.folders path member)
  made := by
    intro path member
    rcases second.made path member with older | free
    · exact first.made path older
    · exact Or.inr ((first.file?_eq path).symm.trans free)

end GrowsTo

theorem lookup_eq_ok_iff {v : Volume α} {path : Path} {content : α} :
    v.lookup path = .ok content ↔
      v.blocked = false ∧ v.obstacle? [] path.dropLast = none ∧
        (path.getLast?.map isTooLong).getD false = false ∧ v.isFolder path = false ∧
          v.file? path = some content := by
  unfold lookup
  cases v.blocked with
  | true => simp
  | false =>
      cases v.obstacle? [] path.dropLast with
      | some fault => simp
      | none =>
          cases (path.getLast?.map isTooLong).getD false with
          | true => simp
          | false =>
              cases v.isFolder path with
              | true => simp
              | false => cases v.file? path <;> simp

/-- A file is at a path just where it can be had. -/
theorem isFile_eq_isOk_lookup (v : Volume α) (path : Path) :
    v.isFile path = (v.lookup path).isOk := by
  unfold isFile lookup
  cases v.blocked with
  | true => rfl
  | false =>
      cases v.obstacle? [] path.dropLast with
      | some fault => rfl
      | none =>
          cases (path.getLast?.map isTooLong).getD false with
          | true => rfl
          | false =>
              cases v.isFolder path with
              | true => rfl
              | false => cases v.file? path <;> rfl

theorem contains_eq_isOk_read (v : Volume α) (ref : String) :
    v.contains ref = (v.read ref).isOk := by
  unfold contains read
  cases v.locate ref with
  | error fault => rfl
  | ok path => exact isFile_eq_isOk_lookup v path

theorem file?_of_lookup {v : Volume α} {path : Path} {content : α}
    (found : v.lookup path = .ok content) : v.file? path = some content :=
  (lookup_eq_ok_iff.1 found).2.2.2.2

theorem GrowsTo.lookup {v w : Volume α} (grown : v.GrowsTo w) {path : Path} {content : α}
    (found : v.lookup path = .ok content) : w.lookup path = .ok content := by
  obtain ⟨unblocked, clear, short, noFolder, filed⟩ := lookup_eq_ok_iff.1 found
  refine lookup_eq_ok_iff.2
    ⟨grown.blocked.trans unblocked, obstacle?_mono grown.folders clear, short, ?_,
      (grown.file?_eq path).trans filed⟩
  simp only [Volume.isFolder, Bool.or_eq_false_iff] at noFolder ⊢
  refine ⟨noFolder.1, ?_⟩
  rw [← Bool.not_eq_true, List.contains_iff_mem]
  intro member
  rcases grown.made path member with older | free
  · rw [List.contains_iff_mem.2 older] at noFolder
    cases noFolder.2
  · rw [filed] at free
    cases free

/-- A folder may be made at a place without a file. -/
theorem growsTo_withFolder {v : Volume α} {path : Path} (free : v.file? path = none) :
    v.GrowsTo { v with folders := v.folders ++ [path] } where
  name := rfl
  root := rfl
  blocked := rfl
  full := rfl
  files := rfl
  folders := fun _ member => List.mem_append_left _ member
  made := by
    intro other member
    rcases List.mem_append.1 member with older | last
    · exact Or.inl older
    · exact Or.inr (List.mem_singleton.1 last ▸ free)

theorem growsTo_makeFolders (v : Volume α) (before rest : Path) :
    v.GrowsTo (v.makeFolders before rest).2 := by
  induction rest generalizing v before with
  | nil => exact GrowsTo.refl v
  | cons name rest ih =>
      simp only [makeFolders]
      split
      · exact GrowsTo.refl v
      · split
        · exact GrowsTo.refl v
        · next free =>
            split
            · exact ih v (before ++ [name])
            · have empty : v.file? (before ++ [name]) = none := by
                simpa only [Bool.not_eq_true, Option.isSome_eq_false_iff,
                  Option.isNone_iff_eq_none] using free
              exact (growsTo_withFolder empty).trans (ih _ (before ++ [name]))

/-- Where the folders of a way could be made, nothing stands in it any more. -/
theorem obstacle?_makeFolders {v : Volume α} {before rest : Path}
    (made : (v.makeFolders before rest).1 = .ok ()) :
    (v.makeFolders before rest).2.obstacle? before rest = none := by
  induction rest generalizing v before with
  | nil => rfl
  | cons name rest ih =>
      simp only [makeFolders] at made ⊢
      split at made
      · cases made
      · next short =>
          rw [if_neg short]
          split at made
          · cases made
          · next free =>
              rw [if_neg free]
              -- the folder made here is still one after those further down are made
              have onward : ∀ u : Volume α, u.isFolder (before ++ [name]) = true →
                  (u.makeFolders (before ++ [name]) rest).1 = .ok () →
                  (u.makeFolders (before ++ [name]) rest).2.obstacle? before (name :: rest) =
                    none := by
                intro u folder succeeded
                have stays := isFolder_mono
                  (growsTo_makeFolders u (before ++ [name]) rest).folders folder
                simp only [Volume.obstacle?, if_neg short, stays, if_true]
                exact ih succeeded
              split at made
              · next folder =>
                  rw [if_pos folder]
                  exact onward v folder made
              · next noFolder =>
                  rw [if_neg noFolder]
                  refine onward _ ?_ made
                  simp only [Volume.isFolder, Bool.or_eq_true, List.contains_iff_mem]
                  exact Or.inr (List.mem_append_right _ List.mem_cons_self)

def withFile (v : Volume α) (path : Path) (content : α) : Volume α :=
  { v with files := Assoc.put path content v.files }

theorem file?_withFile (v : Volume α) (path other : Path) (content : α) :
    (v.withFile path content).file? other =
      if path = other then some content else v.file? other :=
  Assoc.get?_put path other content v.files

theorem lookup_withFile_of_ne {v : Volume α} {path other : Path} {content found : α}
    (different : path ≠ other) (there : v.lookup other = .ok found) :
    (v.withFile path content).lookup other = .ok found := by
  obtain ⟨unblocked, clear, short, noFolder, filed⟩ := lookup_eq_ok_iff.1 there
  refine lookup_eq_ok_iff.2 ⟨unblocked, ?_, short, noFolder, ?_⟩
  · refine obstacle?_mono (v := v) ?_ clear
    exact fun _ folder => folder
  · rw [file?_withFile, if_neg different, filed]

/-- A write either fails, or puts the file into a volume that has grown by folders at most and
where the file can then be looked up. -/
theorem write_cases (v : Volume α) (path : Path) (content : α) :
    (∃ fault w, v.write path content = (.error fault, w) ∧ v.GrowsTo w) ∨
      ∃ w, v.write path content = (.ok (), w.withFile path content) ∧ v.GrowsTo w ∧
        (w.withFile path content).lookup path = .ok content := by
  unfold write
  cases blocked : v.blocked with
  | true => exact Or.inl ⟨_, v, rfl, GrowsTo.refl v⟩
  | false =>
      have grown := growsTo_makeFolders v [] path.dropLast
      have clear := @obstacle?_makeFolders α v [] path.dropLast
      cases made : v.makeFolders [] path.dropLast with
      | mk result w =>
          rw [made] at grown clear
          cases result with
          | error fault => exact Or.inl ⟨fault, w, rfl, grown⟩
          | ok _ =>
              simp only [Bool.false_eq_true, if_false]
              split
              · exact Or.inl ⟨_, w, rfl, grown⟩
              · next short =>
                  split
                  · exact Or.inl ⟨_, w, rfl, grown⟩
                  · next noFolder =>
                      refine Or.inr ⟨w, rfl, grown, lookup_eq_ok_iff.2 ?_⟩
                      refine ⟨grown.blocked.trans blocked, ?_, ?_, ?_, ?_⟩
                      · refine obstacle?_mono (v := w) ?_ (clear rfl)
                        exact fun _ folder => folder
                      · exact eq_false_of_ne_true short
                      · exact eq_false_of_ne_true noFolder
                      · rw [file?_withFile, if_pos rfl]

def withoutFile (v : Volume α) (path : Path) : Volume α :=
  { v with files := Assoc.erase path v.files }

theorem file?_withoutFile (v : Volume α) (path other : Path) :
    (v.withoutFile path).file? other = if path = other then none else v.file? other :=
  Assoc.get?_erase path other v.files

theorem lookup_withoutFile_of_ne {v : Volume α} {path other : Path} {found : α}
    (different : path ≠ other) (there : v.lookup other = .ok found) :
    (v.withoutFile path).lookup other = .ok found := by
  obtain ⟨unblocked, clear, short, noFolder, filed⟩ := lookup_eq_ok_iff.1 there
  refine lookup_eq_ok_iff.2 ⟨unblocked, ?_, short, noFolder, ?_⟩
  · refine obstacle?_mono (v := v) ?_ clear
    exact fun _ folder => folder
  · rw [file?_withoutFile, if_neg different, filed]

/-- A removal changes nothing, or takes away the file that the reference leads to. -/
theorem delete_cases (v : Volume α) (ref : String) :
    (v.delete ref).2 = v ∨
      ∃ path, v.locate ref = .ok path ∧ v.delete ref = (.ok true, v.withoutFile path) := by
  unfold delete
  cases located : v.locate ref with
  | error fault => exact Or.inl rfl
  | ok path =>
      cases found : v.lookup path with
      | ok content =>
          simp only [found]
          exact Or.inr ⟨path, rfl, rfl⟩
      | error fault => exact Or.inl (by simp only [found])

/-- The name can begin a reference, and everything on the way to a file is a plain name. -/
structure Sound (v : Volume α) : Prop where
  named : IsStoreName v.name
  rooted : ∀ name ∈ v.root, IsPlain name
  filed : ∀ path content, v.file? path = some content → IsPlainPath path

theorem sound_empty {name : String} {root : Path} (named : IsStoreName name)
    (rooted : ∀ part ∈ root, IsPlain part) : (empty name root : Volume α).Sound :=
  ⟨named, rooted, fun _ _ none => nomatch none⟩

theorem Sound.of_growsTo {v w : Volume α} (sound : v.Sound) (grown : v.GrowsTo w) : w.Sound where
  named := grown.name ▸ sound.named
  rooted := grown.root ▸ sound.rooted
  filed := fun path content found =>
    sound.filed path content ((grown.file?_eq path).symm.trans found)

theorem Sound.withFile {v : Volume α} (sound : v.Sound) {path : Path} {content : α}
    (plain : IsPlainPath path) : (v.withFile path content).Sound where
  named := sound.named
  rooted := sound.rooted
  filed := by
    intro other found present
    rw [file?_withFile] at present
    split at present
    · next same => exact same ▸ plain
    · exact sound.filed other found present

theorem Sound.withoutFile {v : Volume α} (sound : v.Sound) (path : Path) :
    (v.withoutFile path).Sound where
  named := sound.named
  rooted := sound.rooted
  filed := by
    intro other found present
    rw [file?_withoutFile] at present
    split at present
    · cases present
    · exact sound.filed other found present

/-- Whether a store is full makes no difference to what is in it. -/
theorem Sound.withFull {v : Volume α} (sound : v.Sound) (full : Bool) : { v with full }.Sound :=
  ⟨sound.named, sound.rooted, sound.filed⟩

theorem lookup_withFull {v : Volume α} (full : Bool) {path : Path} {content : α}
    (there : v.lookup path = .ok content) : { v with full }.lookup path = .ok content := by
  obtain ⟨unblocked, clear, short, noFolder, filed⟩ := lookup_eq_ok_iff.1 there
  refine lookup_eq_ok_iff.2 ⟨unblocked, ?_, short, noFolder, filed⟩
  refine obstacle?_mono (v := v) ?_ clear
  exact fun _ folder => folder

end Volume
end Storage
end Issuance
