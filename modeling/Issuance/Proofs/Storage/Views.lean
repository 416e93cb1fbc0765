import Issuance.Proofs.Storage.Confinement
/-!
A store on a disk is the store that lies beneath its root.

Where no link is on the disk and the folder of the root is there, each call on the store is answered
as the part of the disk beneath the root, taken as a volume, answers it, and leaves it the same.
What is beneath another root stays as it is.
-/

namespace Issuance

section Rekeyed

variable {κ κ' α : Type} [DecidableEq κ] [DecidableEq κ'] {rekey : κ → Option κ'} {key : κ}
  {other : κ'}

theorem Assoc.get?_rekeyed (known : ∀ k, rekey k = some other ↔ k = key) (pairs : List (κ × α)) :
    get? other (pairs.filterMap fun pair => (rekey pair.1).map (·, pair.2)) = get? key pairs := by
  induction pairs with
  | nil => rfl
  | cons pair rest ih =>
      obtain ⟨k, value⟩ := pair
      by_cases same : k = key
      · rw [List.filterMap_cons_some (by rw [(known k).2 same]; rfl)]
        simp only [get?, same, if_true]
      · cases there : rekey k with
        | none =>
            rw [List.filterMap_cons_none (by rw [there]; rfl), ih]
            simp only [get?, if_neg same]
        | some next =>
            have different : next ≠ other := fun equal => same ((known k).1 (equal ▸ there))
            rw [List.filterMap_cons_some (by rw [there]; rfl)]
            simp only [get?, if_neg same, if_neg different, ih]

theorem Assoc.put_rekeyed (known : ∀ k, rekey k = some other ↔ k = key) (value : α)
    (pairs : List (κ × α)) :
    (put key value pairs).filterMap (fun pair => (rekey pair.1).map (·, pair.2)) =
      put other value (pairs.filterMap fun pair => (rekey pair.1).map (·, pair.2)) := by
  have own := (known key).2 rfl
  induction pairs with
  | nil => simp only [put, List.filterMap_cons, own, Option.map_some, List.filterMap_nil]
  | cons pair rest ih =>
      obtain ⟨k, old⟩ := pair
      by_cases same : k = key
      · subst same
        simp only [put, if_true, List.filterMap_cons, own, Option.map_some]
      · cases there : rekey k with
        | none =>
            simp only [put, if_neg same, List.filterMap_cons, there, Option.map_none, ih]
        | some next =>
            have different : next ≠ other := fun equal => same ((known k).1 (equal ▸ there))
            simp only [put, if_neg same, List.filterMap_cons, there, Option.map_some, ih,
              if_neg different]

theorem Assoc.erase_rekeyed (known : ∀ k, rekey k = some other ↔ k = key)
    (pairs : List (κ × α)) :
    (erase key pairs).filterMap (fun pair => (rekey pair.1).map (·, pair.2)) =
      erase other (pairs.filterMap fun pair => (rekey pair.1).map (·, pair.2)) := by
  induction pairs with
  | nil => rfl
  | cons pair rest ih =>
      obtain ⟨k, value⟩ := pair
      by_cases same : k = key
      · subst same
        simp only [erase, if_true, List.filterMap_cons, (known k).2 rfl, Option.map_some, ih]
      · cases there : rekey k with
        | none =>
            simp only [erase, if_neg same, List.filterMap_cons, there, Option.map_none, ih]
        | some next =>
            have different : next ≠ other := fun equal => same ((known k).1 (equal ▸ there))
            simp only [erase, if_neg same, List.filterMap_cons, there, Option.map_some, ih,
              if_neg different]

omit [DecidableEq κ'] in
theorem Assoc.put_rekeyed_of_none (none : rekey key = none) (value : α) (pairs : List (κ × α)) :
    (put key value pairs).filterMap (fun pair => (rekey pair.1).map (·, pair.2)) =
      pairs.filterMap fun pair => (rekey pair.1).map (·, pair.2) := by
  induction pairs with
  | nil => simp only [put, List.filterMap_cons, none, Option.map_none, List.filterMap_nil]
  | cons pair rest ih =>
      obtain ⟨k, old⟩ := pair
      by_cases same : k = key
      · subst same
        simp only [put, if_true, List.filterMap_cons, none, Option.map_none]
      · simp only [put, if_neg same, List.filterMap_cons, ih]

omit [DecidableEq κ'] in
theorem Assoc.erase_rekeyed_of_none (none : rekey key = none) (pairs : List (κ × α)) :
    (erase key pairs).filterMap (fun pair => (rekey pair.1).map (·, pair.2)) =
      pairs.filterMap fun pair => (rekey pair.1).map (·, pair.2) := by
  induction pairs with
  | nil => rfl
  | cons pair rest ih =>
      obtain ⟨k, old⟩ := pair
      by_cases same : k = key
      · subst same
        simp only [erase, if_true, List.filterMap_cons, none, Option.map_none, ih]
      · simp only [erase, if_neg same, List.filterMap_cons, ih]

omit [DecidableEq κ] [DecidableEq κ'] in
theorem Assoc.keys_rekeyed (rekey : κ → Option κ') (pairs : List (κ × α)) :
    (pairs.filterMap fun pair => (rekey pair.1).map (·, pair.2)).map Prod.fst =
      (pairs.map Prod.fst).filterMap rekey := by
  rw [List.map_filterMap, List.filterMap_map]
  refine List.filterMap_congr fun pair _ => ?_
  simp only [Option.map_map, Function.comp_apply]
  cases rekey pair.1 <;> rfl

end Rekeyed

namespace Storage

variable {α : Type} {name : String} {root path : Path}

theorem below?_append_iff (inside : path ≠ []) (place : Path) :
    below? root place = some path ↔ place = root ++ path := by
  rw [below?_eq_some_iff]
  exact and_iff_right inside

theorem meetsBefore_append (root : Path) {path other : Path} (inside : path ≠ [])
    (otherInside : other ≠ []) :
    Volume.meetsBefore (root ++ path) (root ++ other) = Volume.meetsBefore path other := by
  induction root with
  | nil => rfl
  | cons a rest ih =>
      obtain ⟨b, p, first⟩ := List.exists_cons_of_ne_nil
        (List.append_ne_nil_of_right_ne_nil rest inside)
      obtain ⟨c, q, second⟩ := List.exists_cons_of_ne_nil
        (List.append_ne_nil_of_right_ne_nil rest otherInside)
      rw [first, second] at ih
      rw [List.cons_append, List.cons_append, first, second, Volume.meetsBefore, if_pos rfl, ih]
      all_goals simp

namespace Volume

variable {v : Volume α}

/-- The part of a volume that lies below a place, as a store whose root this place is. -/
def beneath (name : String) (root : Path) (v : Volume α) : Volume α where
  name := name
  root := root
  blocked := v.blocked
  full := v.full
  folders := v.folders.filterMap (below? root)
  files := v.files.filterMap fun file => (below? root file.1).map (·, file.2)

/-- The folders on the way to a place are there, that of the place itself among them. -/
def Opens (v : Volume α) (root : Path) : Prop :=
  ∀ front next, front ++ [next] <+: root →
    isTooLong next = false ∧ v.isFolder (front ++ [next]) = true ∧ v.file? (front ++ [next]) = none

theorem Opens.isFolder (opens : v.Opens root) : v.isFolder root = true := by
  rcases List.eq_nil_or_concat root with rfl | ⟨front, next, rfl⟩
  · rfl
  · rw [List.concat_eq_append] at opens ⊢
    exact (opens front next (List.prefix_refl _)).2.1

theorem file?_beneath (inside : path ≠ []) :
    (v.beneath name root).file? path = v.file? (root ++ path) :=
  Assoc.get?_rekeyed (below?_append_iff inside) v.files

theorem isFolder_beneath (inside : path ≠ []) :
    (v.beneath name root).isFolder path = v.isFolder (root ++ path) := by
  have filled : path.isEmpty = false := List.isEmpty_eq_false_iff.2 inside
  have filledToo : (root ++ path).isEmpty = false :=
    List.isEmpty_eq_false_iff.2 (List.append_ne_nil_of_right_ne_nil root inside)
  unfold isFolder
  rw [filled, filledToo, Bool.false_or, Bool.false_or, Bool.eq_iff_iff, List.contains_iff_mem,
    List.contains_iff_mem]
  change path ∈ v.folders.filterMap (below? root) ↔ _
  rw [List.mem_filterMap]
  constructor
  · rintro ⟨place, there, found⟩
    exact (below?_append_iff inside place).1 found ▸ there
  · exact fun there => ⟨_, there, (below?_append_iff inside _).2 rfl⟩

theorem obstacle?_beneath (before rest : Path) :
    (v.beneath name root).obstacle? before rest = v.obstacle? (root ++ before) rest := by
  induction rest generalizing before with
  | nil => rfl
  | cons next rest ih =>
      have inside : before ++ [next] ≠ [] :=
        List.append_ne_nil_of_right_ne_nil _ (List.cons_ne_nil _ _)
      simp only [obstacle?, isFolder_beneath inside, file?_beneath inside, ih, List.append_assoc]

/-- Nothing stands in the way to the root. -/
theorem obstacle?_of_opens (opens : v.Opens root) (rest : Path) :
    v.obstacle? [] (root ++ rest) = v.obstacle? root rest := by
  have onward : ∀ others before, before ++ others = root →
      v.obstacle? before (others ++ rest) = v.obstacle? root rest := by
    intro others
    induction others with
    | nil =>
        intro before whole
        rw [← whole, List.append_nil]
        rfl
    | cons next others ih =>
        intro before whole
        rw [List.append_cons] at whole
        obtain ⟨short, folder, -⟩ := opens before next ⟨others, whole⟩
        simp only [List.cons_append, obstacle?, short, folder, Bool.false_eq_true, if_false,
          if_true]
        exact ih (before ++ [next]) whole
  exact onward root [] rfl

theorem makeFolders_of_opens (opens : v.Opens root) (rest : Path) :
    v.makeFolders [] (root ++ rest) = v.makeFolders root rest := by
  have onward : ∀ others before, before ++ others = root →
      v.makeFolders before (others ++ rest) = v.makeFolders root rest := by
    intro others
    induction others with
    | nil =>
        intro before whole
        rw [← whole, List.append_nil]
        rfl
    | cons next others ih =>
        intro before whole
        rw [List.append_cons] at whole
        obtain ⟨short, folder, free⟩ := opens before next ⟨others, whole⟩
        simp only [List.cons_append, makeFolders, short, folder, free, Option.isSome_none,
          Bool.false_eq_true, if_false, if_true]
        exact ih (before ++ [next]) whole
  exact onward root [] rfl

theorem lookup_beneath (opens : v.Opens root) (inside : path ≠ []) :
    (v.beneath name root).lookup path = v.lookup (root ++ path) := by
  unfold lookup
  rw [List.dropLast_append_of_ne_nil inside, List.getLast?_append_of_ne_nil root inside,
    obstacle?_of_opens opens, obstacle?_beneath, List.append_nil, isFolder_beneath inside,
    file?_beneath inside]
  rfl

theorem beneath_withFolder (inside : path ≠ []) :
    ({ v with folders := v.folders ++ [root ++ path] } : Volume α).beneath name root =
      { v.beneath name root with folders := (v.beneath name root).folders ++ [path] } := by
  have found := (below?_append_iff inside (root ++ path)).2 rfl
  simp only [beneath, List.filterMap_append, List.filterMap_cons, found, List.filterMap_nil]

theorem makeFolders_beneath (v : Volume α) (before rest : Path) :
    (v.beneath name root).makeFolders before rest =
      ((v.makeFolders (root ++ before) rest).1,
        (v.makeFolders (root ++ before) rest).2.beneath name root) := by
  induction rest generalizing v before with
  | nil => rfl
  | cons next rest ih =>
      have inside : before ++ [next] ≠ [] :=
        List.append_ne_nil_of_right_ne_nil _ (List.cons_ne_nil _ _)
      simp only [makeFolders, isFolder_beneath inside, file?_beneath inside, List.append_assoc]
      split
      · rfl
      · split
        · rfl
        · split
          · exact ih v (before ++ [next])
          · rw [← beneath_withFolder inside]
            exact ih _ (before ++ [next])

theorem beneath_withFile (inside : path ≠ []) (content : α) :
    (v.withFile (root ++ path) content).beneath name root =
      (v.beneath name root).withFile path content := by
  simp only [beneath, withFile, Assoc.put_rekeyed (below?_append_iff inside)]

theorem beneath_withoutFile (inside : path ≠ []) :
    (v.withoutFile (root ++ path)).beneath name root =
      (v.beneath name root).withoutFile path := by
  simp only [beneath, withoutFile, Assoc.erase_rekeyed (below?_append_iff inside)]

theorem write_beneath (opens : v.Opens root) (unblocked : v.blocked = false) (inside : path ≠ [])
    (content : α) :
    (v.beneath name root).write path content =
      ((v.write (root ++ path) content).1,
        (v.write (root ++ path) content).2.beneath name root) := by
  unfold write
  have unblocked' : (v.beneath name root).blocked = false := unblocked
  rw [unblocked, unblocked', List.dropLast_append_of_ne_nil inside,
    List.getLast?_append_of_ne_nil root inside, makeFolders_of_opens opens, makeFolders_beneath,
    List.append_nil]
  simp only [Bool.false_eq_true, if_false]
  cases v.makeFolders root path.dropLast with
  | mk made w =>
      cases made with
      | error fault => rfl
      | ok _ =>
          simp only [isFolder_beneath inside]
          split
          · rfl
          · split
            · rfl
            · exact congrArg (Prod.mk _) (beneath_withFile inside content).symm

/-- The paths below a folder, as a listing filters them. -/
theorem filter_below (folder : Path) (paths : List Path) :
    (paths.filter fun place =>
        (root ++ folder).isPrefixOf place && decide ((root ++ folder).length < place.length)) =
      ((paths.filterMap (below? root)).filter fun path =>
        folder.isPrefixOf path && decide (folder.length < path.length)).map (root ++ ·) := by
  induction paths with
  | nil => rfl
  | cons place rest ih =>
      cases under : below? root place with
      | none =>
          rw [List.filterMap_cons_none under, ← ih, List.filter_cons_of_neg]
          intro within
          simp only [Bool.and_eq_true, decide_eq_true_eq, List.isPrefixOf_iff_prefix] at within
          obtain ⟨⟨further, rfl⟩, longer⟩ := within
          have inside : folder ++ further ≠ [] := by
            intro none
            rw [List.append_assoc, none, List.append_nil, List.length_append] at longer
            omega
          rw [(below?_append_iff inside _).2 (List.append_assoc root folder further)] at under
          cases under
      | some path =>
          obtain ⟨inside, rfl⟩ := below?_eq_some_iff.1 under
          have same : ((root ++ folder).isPrefixOf (root ++ path) &&
              decide ((root ++ folder).length < (root ++ path).length)) =
                (folder.isPrefixOf path && decide (folder.length < path.length)) := by
            rw [Bool.eq_iff_iff]
            simp only [Bool.and_eq_true, decide_eq_true_eq, List.isPrefixOf_iff_prefix,
              List.prefix_append_right_inj, List.length_append, Nat.add_lt_add_iff_left]
          rw [List.filterMap_cons_some under, List.filter_cons, List.filter_cons, same, ih]
          split <;> rfl

/-- The files below a folder of a store are those below the folder of the whole tree. -/
theorem filesBelow_beneath (opens : v.Opens root) (folder : Path) :
    v.filesBelow (root ++ folder) =
      ((v.beneath name root).filesBelow folder).map (root ++ ·) := by
  have known : (v.beneath name root).isFolder folder = v.isFolder (root ++ folder) := by
    by_cases top : folder = []
    · rw [top, List.append_nil, opens.isFolder]
      rfl
    · exact isFolder_beneath top
  have sameBlocked : (v.beneath name root).blocked = v.blocked := rfl
  unfold filesBelow
  rw [known, sameBlocked]
  split
  · rfl
  · have names : (v.beneath name root).files.map Prod.fst =
        (v.files.map Prod.fst).filterMap (below? root) := Assoc.keys_rekeyed _ _
    rw [List.map_mergeSort (s := meetsBefore), names, filter_below]
    intro path member other otherMember
    rw [meetsBefore_append]
    all_goals
      rintro rfl
      simp at *

/-- A change that touches nothing below a place leaves what is beneath it. -/
theorem beneath_change {allowed : Path → Prop} {change : Change α}
    (within : change.Within allowed)
    (outside : ∀ place, allowed place → ∀ front, front <+: place → below? root front = none) :
    (v.change change).beneath name root = v.beneath name root := by
  have file : ∀ place, allowed place → below? root place = none :=
    fun place inside => outside place inside place (List.prefix_refl place)
  cases change with
  | folder path =>
      obtain ⟨place, inside, above⟩ := within
      simp only [Volume.change, beneath, List.filterMap_append, List.filterMap_cons,
        outside place inside path above, List.filterMap_nil, List.append_nil]
  | file path content =>
      simp only [Volume.change, beneath, Assoc.put_rekeyed_of_none (file path within)]
  | move source target =>
      cases found : v.file? source with
      | none => simp only [Volume.change, found]
      | some content =>
          rw [change_move found]
          simp only [beneath, Assoc.put_rekeyed_of_none (file target within.2),
            Assoc.erase_rekeyed_of_none (file source within.1)]
  | removal path =>
      simp only [Volume.change, beneath, Assoc.erase_rekeyed_of_none (file path within)]

theorem beneath_replay {allowed : Path → Prop} {changes : List (Change α)}
    (within : ∀ change ∈ changes, change.Within allowed)
    (outside : ∀ place, allowed place → ∀ front, front <+: place → below? root front = none) :
    (v.replay changes).beneath name root = v.beneath name root := by
  induction changes generalizing v with
  | nil => rfl
  | cons change rest ih =>
      have onward := @ih (v.change change) fun c member => within c (List.mem_cons_of_mem _ member)
      exact onward.trans (beneath_change (within change List.mem_cons_self) outside)

end Volume

namespace Disk

variable {disk : Disk α} {store : Store}

/-- What a store has of a disk. -/
def view (disk : Disk α) (store : Store) (root : Path) : Volume α :=
  disk.tree.beneath store.name root

theorem tree_replay (disk : Disk α) (changes : List (Change α)) :
    (disk.replay changes).tree = disk.tree.replay changes := by
  have kept : ∀ v : Volume α, (v.replay changes).name = v.name ∧
      (v.replay changes).root = v.root ∧ (v.replay changes).blocked = v.blocked ∧
        (v.replay changes).full = v.full := by
    induction changes with
    | nil => exact fun v => ⟨rfl, rfl, rfl, rfl⟩
    | cons change rest ih =>
        intro v
        have first : (v.change change).name = v.name ∧ (v.change change).root = v.root ∧
            (v.change change).blocked = v.blocked ∧ (v.change change).full = v.full := by
          cases change with
          | move source target =>
              simp only [Volume.change]
              split <;> exact ⟨rfl, rfl, rfl, rfl⟩
          | _ => exact ⟨rfl, rfl, rfl, rfl⟩
        obtain ⟨sameName, sameRoot, sameBlocked, sameFull⟩ := ih (v.change change)
        exact ⟨sameName.trans first.1, sameRoot.trans first.2.1, sameBlocked.trans first.2.2.1,
          sameFull.trans first.2.2.2⟩
  have whole := kept disk.tree
  unfold replay
  generalize disk.tree.replay changes = after at whole
  obtain ⟨name, root, blocked, full, folders, files⟩ := after
  simp only at whole
  obtain ⟨rfl, rfl, rfl, rfl⟩ := whole
  rfl

theorem placeFor_of_unlinked (holds : disk.Holds store root) (unlinked : disk.links = [])
    (key : String) : disk.placeFor store key = (resolve root key).map (root ++ ·) := by
  refine placeFor_of_isClear holds fun _ _ _ _ _ _ => ?_
  rw [unlinked]
  rfl

theorem locate_of_unlinked (holds : disk.Holds store root) (unlinked : disk.links = [])
    (ref : String) :
    disk.locate store ref = ((disk.view store root).locate ref).map (root ++ ·) := by
  unfold locate Volume.locate
  cases Reference.ofText ref with
  | error fault => rfl
  | ok r =>
      simp only [bind, Except.bind]
      by_cases own : r.store = store.name
      · have ownView : r.store = (disk.view store root).name := own
        rw [if_pos own, if_pos ownView]
        exact placeFor_of_unlinked holds unlinked r.key
      · have foreign : r.store ≠ (disk.view store root).name := own
        rw [if_neg own, if_neg foreign]
        rfl

theorem read_of_unlinked (holds : disk.Holds store root) (unlinked : disk.links = [])
    (opens : disk.tree.Opens root) (ref : String) :
    disk.read store ref = (disk.view store root).read ref := by
  unfold read Volume.read
  rw [locate_of_unlinked holds unlinked]
  cases found : (disk.view store root).locate ref with
  | error fault => rfl
  | ok path =>
      obtain ⟨key, -, leads⟩ := Volume.locate_eq_ok_iff.1 found
      exact (Volume.lookup_beneath opens (resolve_eq_ok_iff.1 leads).1).symm

theorem put_of_unlinked (holds : disk.Holds store root) (unlinked : disk.links = [])
    (opens : disk.tree.Opens root) (key : String) (content : α) :
    ∃ names, (disk.put (.fair names) store key content).1 =
        ((disk.view store root).put key content).1 ∧
      (disk.replay (disk.put (.fair names) store key content).2).view store root =
        ((disk.view store root).put key content).2 := by
  have space : (disk.view store root).full = false := rfl
  have rooted : (disk.view store root).root = root := rfl
  unfold put Volume.put
  rw [placeFor_of_unlinked holds unlinked, space, rooted]
  simp only [Bool.false_eq_true, if_false]
  cases under : resolve root key with
  | error fault => exact ⟨[], rfl, rfl⟩
  | ok path =>
      obtain ⟨taken, free⟩ := disk.tree.exists_taken (root ++ path)
      obtain ⟨name, fresh⟩ := Infinite.exists_notMem_finset taken.toFinset
      rw [List.mem_toFinset] at fresh
      have written := Volume.writeThrough_fair (free name fresh) content
      have beneath : (disk.view store root).write path content = _ :=
        Volume.write_beneath opens rfl (resolve_eq_ok_iff.1 under).1 content
      have answer : (disk.tree.writePlan (.fair [name]) (root ++ path) content).1 =
          (disk.tree.write (root ++ path) content).1 := congrArg Prod.fst written
      have left : disk.tree.replay (disk.tree.writePlan (.fair [name]) (root ++ path) content).2 =
          (disk.tree.write (root ++ path) content).2 := congrArg Prod.snd written
      refine ⟨[name], ?_, ?_⟩
      · simp only [Except.map, answer, beneath]
        rfl
      · simp only [Except.map, view, tree_replay, left] at beneath ⊢
        rw [beneath]

theorem list_of_unlinked (holds : disk.Holds store root) (unlinked : disk.links = [])
    (opens : disk.tree.Opens root) (keyPrefix : String) :
    disk.list store keyPrefix = (disk.view store root).list keyPrefix := by
  have start : destination [] (disk.realText store.root) = root := by
    rw [holds.realText_root, destination_absolute holds.real.plain]
  have listing : ∀ folder, ((disk.tree.filesBelow (root ++ folder)).map fun place =>
      (⟨store.name, keyOf (relative root place)⟩ : Reference)) =
        ((disk.view store root).filesBelow folder).map fun path => ⟨store.name, keyOf path⟩ := by
    intro folder
    rw [@Volume.filesBelow_beneath α store.name root disk.tree opens, List.map_map]
    simp only [Function.comp_def, relative_append]
    rfl
  have rooted : (disk.view store root).root = root := rfl
  unfold list Volume.list
  rw [start, placeFor_of_unlinked holds unlinked, rooted]
  cases keyPrefix.isEmpty with
  | true =>
      have whole := listing []
      rw [List.append_nil] at whole
      exact congrArg Except.ok whole
  | false =>
      cases resolve root keyPrefix with
      | error fault => rfl
      | ok folder => exact congrArg Except.ok (listing folder)

/-- Without links on the disk, and with the folder of the root there, a store answers every call as
the volume beneath the root does, and leaves the same beneath it. -/
theorem serve_view (holds : disk.Holds store root) (unlinked : disk.links = [])
    (opens : disk.tree.Opens root) (call : Call α) :
    ∃ names, (disk.serve (.fair names) store call).1 = ((disk.view store root).serve call).1 ∧
      (disk.replay (disk.serve (.fair names) store call).2).view store root =
        ((disk.view store root).serve call).2 := by
  have idle : (disk.replay []).view store root = disk.view store root := rfl
  cases call with
  | put key content =>
      obtain ⟨names, answer, left⟩ := put_of_unlinked holds unlinked opens key content
      exact ⟨names, congrArg (Exchange.put key content) answer, left⟩
  | read ref =>
      exact ⟨[], congrArg (Exchange.read ref) (read_of_unlinked holds unlinked opens ref), idle⟩
  | contains ref =>
      refine ⟨[], congrArg (Exchange.contains ref) ?_, idle⟩
      rw [contains_eq_isOk_read, Volume.contains_eq_isOk_read,
        read_of_unlinked holds unlinked opens]
  | delete ref =>
      refine ⟨[], ?_⟩
      simp only [serve, Volume.serve, delete, Volume.delete, locate_of_unlinked holds unlinked]
      cases found : (disk.view store root).locate ref with
      | error fault => exact ⟨rfl, idle⟩
      | ok path =>
          obtain ⟨key, -, leads⟩ := Volume.locate_eq_ok_iff.1 found
          have inside := (resolve_eq_ok_iff.1 leads).1
          have looked : (disk.view store root).lookup path = disk.tree.lookup (root ++ path) :=
            Volume.lookup_beneath opens inside
          simp only [Except.map, looked]
          cases disk.tree.lookup (root ++ path) with
          | error fault => exact ⟨rfl, idle⟩
          | ok content =>
              refine ⟨rfl, ?_⟩
              simp only [view, tree_replay]
              exact Volume.beneath_withoutFile inside
  | list keyPrefix =>
      exact ⟨[], congrArg (Exchange.list keyPrefix)
        (list_of_unlinked holds unlinked opens keyPrefix), idle⟩

/-- Two stores on one disk, neither below the other, are apart: whatever the one is asked, and
whatever the file system refuses, the other one has what it had. -/
theorem view_serve_of_disjoint (holds : disk.Holds store root) {next : Store} {nextRoot : Path}
    (notAbove : ¬root <+: nextRoot) (notBelow : ¬nextRoot <+: root) (conditions : Conditions α)
    (call : Call α) :
    (disk.replay (disk.serve conditions store call).2).view next nextRoot =
      disk.view next nextRoot := by
  unfold view
  rw [tree_replay]
  refine Volume.beneath_replay (fun change member => within_serve holds member) ?_
  rintro _ ⟨path, -, rfl⟩ front above
  cases under : below? nextRoot front with
  | none => rfl
  | some rest =>
      obtain ⟨-, rfl⟩ := below?_eq_some_iff.1 under
      have first : nextRoot <+: root ++ path := (List.prefix_append nextRoot rest).trans above
      rcases List.prefix_or_prefix_of_prefix first (List.prefix_append root path) with hit | hit
      · exact absurd hit notBelow
      · exact absurd hit notAbove

end Disk
end Storage
end Issuance
