import Issuance.Proofs.Storage.Vaults
/-!
Stores that fill up below one folder. If files of one depth are put below a folder, then a further
file of that depth meets the same obstacles as before, and everything that lies elsewhere is read as
before.
-/

namespace Issuance
namespace Storage

variable {α : Type} {top : String} {depth : Nat}

/-- A place strictly below a folder of the root. -/
def IsWithin (top : String) (path : Path) : Prop :=
  ∃ name rest, path = top :: name :: rest

/-- A place below a folder of the root, as many names away from the root as told. -/
structure IsSlot (top : String) (depth : Nat) (path : Path) : Prop where
  below : path.head? = some top
  deep : path.length = depth

/-- The folders on the way to a slot are less deep. -/
theorem IsSlot.of_dropLast {path front back : Path} {name : String} (slot : IsSlot top depth path)
    (folders : path.dropLast = name :: (front ++ back)) :
    (name :: front).head? = some top ∧ (name :: front).length < depth := by
  cases path with
  | nil => cases folders
  | cons first rest =>
      cases rest with
      | nil => cases folders
      | cons second others =>
          rw [List.dropLast_cons_cons] at folders
          obtain ⟨rfl, later⟩ := List.cons.inj folders
          refine ⟨slot.below, ?_⟩
          have count := congrArg List.length later
          have deep := slot.deep
          simp only [List.length_dropLast, List.length_append, List.length_cons] at count deep ⊢
          omega

namespace Volume

/-- What has come is in one folder: files at least as deep as told, and folders that are less deep
and stand where no file stood. -/
structure Fills (top : String) (depth : Nat) (v w : Volume α) : Prop where
  name : w.name = v.name
  root : w.root = v.root
  blocked : w.blocked = v.blocked
  full : w.full = v.full
  files : ∀ path, path.head? ≠ some top ∨ path.length < depth → w.file? path = v.file? path
  folders : ∀ path ∈ v.folders, path ∈ w.folders
  made : ∀ path ∈ w.folders, path ∈ v.folders ∨
    path.head? = some top ∧ path.length < depth ∧ v.file? path = none

namespace Fills

theorem refl (v : Volume α) : Fills top depth v v :=
  ⟨rfl, rfl, rfl, rfl, fun _ _ => rfl, fun _ member => member, fun _ member => Or.inl member⟩

theorem trans {u v w : Volume α} (first : Fills top depth u v) (second : Fills top depth v w) :
    Fills top depth u w where
  name := second.name.trans first.name
  root := second.root.trans first.root
  blocked := second.blocked.trans first.blocked
  full := second.full.trans first.full
  files := fun path outside => (second.files path outside).trans (first.files path outside)
  folders := fun path member => second.folders path (first.folders path member)
  made := by
    intro path member
    rcases second.made path member with older | ⟨below, shallow, free⟩
    · exact first.made path older
    · exact Or.inr ⟨below, shallow, (first.files path (Or.inr shallow)).symm.trans free⟩

/-- No folder comes into being outside of the folder that fills up, nor as deep as the files. -/
theorem isFolder {v w : Volume α} (fills : Fills top depth v w) {path : Path}
    (outside : path.head? ≠ some top ∨ depth ≤ path.length) : w.isFolder path = v.isFolder path := by
  rw [Bool.eq_iff_iff]
  constructor
  · simp only [Volume.isFolder, Bool.or_eq_true, List.contains_iff_mem]
    rintro (atRoot | member)
    · exact Or.inl atRoot
    · rcases fills.made path member with older | ⟨below, shallow, -⟩
      · exact Or.inr older
      · rcases outside with elsewhere | deep
        · exact absurd below elsewhere
        · omega
  · exact isFolder_mono fills.folders

end Fills

theorem mem_folders_makeFolders {v : Volume α} {before rest path : Path}
    (member : path ∈ (v.makeFolders before rest).2.folders) :
    path ∈ v.folders ∨ ∃ name front back, rest = name :: (front ++ back) ∧
      path = before ++ name :: front := by
  induction rest generalizing v before with
  | nil => exact Or.inl member
  | cons name rest ih =>
      -- a folder made further on lies below the one that is made here
      have onward : path = before ++ [name] ∨ (∃ next front back,
          rest = next :: (front ++ back) ∧ path = (before ++ [name]) ++ next :: front) →
          ∃ first front back, name :: rest = first :: (front ++ back) ∧
            path = before ++ first :: front := by
        rintro (rfl | ⟨next, front, back, rfl, rfl⟩)
        · exact ⟨name, [], rest, rfl, rfl⟩
        · refine ⟨name, next :: front, back, rfl, ?_⟩
          rw [List.append_assoc]
          rfl
      simp only [makeFolders] at member
      split at member
      · exact Or.inl member
      · split at member
        · exact Or.inl member
        · split at member
          · rcases ih member with older | further
            · exact Or.inl older
            · exact Or.inr (onward (Or.inr further))
          · rcases ih member with older | further
            · rcases List.mem_append.1 older with oldest | last
              · exact Or.inl oldest
              · exact Or.inr (onward (Or.inl (List.mem_singleton.1 last)))
            · exact Or.inr (onward (Or.inr further))

/-- Whether folders can be made is a matter of the files that stand in the way. -/
theorem fst_makeFolders_congr {v w : Volume α} {before rest : Path}
    (same : ∀ name front back, rest = name :: (front ++ back) →
      w.file? (before ++ name :: front) = v.file? (before ++ name :: front)) :
    (w.makeFolders before rest).1 = (v.makeFolders before rest).1 := by
  induction rest generalizing v w before with
  | nil => rfl
  | cons name rest ih =>
      have here : w.file? (before ++ [name]) = v.file? (before ++ [name]) :=
        same name [] rest rfl
      have onward : ∀ v' w' : Volume α, v'.files = v.files → w'.files = w.files →
          (w'.makeFolders (before ++ [name]) rest).1 =
            (v'.makeFolders (before ++ [name]) rest).1 := by
        intro v' w' ofV ofW
        apply ih
        rintro next front back rfl
        have further := same name (next :: front) back rfl
        unfold file? at further ⊢
        rw [ofV, ofW, List.append_assoc]
        exact further
      simp only [makeFolders, here]
      split
      · rfl
      · split
        · rfl
        · split <;> split <;> exact onward _ _ rfl rfl

theorem GrowsTo.fills {v w : Volume α} (grown : v.GrowsTo w)
    (made : ∀ path ∈ w.folders, path ∈ v.folders ∨ path.head? = some top ∧ path.length < depth) :
    Fills top depth v w where
  name := grown.name
  root := grown.root
  blocked := grown.blocked
  full := grown.full
  files := fun path _ => grown.file?_eq path
  folders := grown.folders
  made := by
    intro path member
    rcases grown.made path member with older | free
    · exact Or.inl older
    · exact (made path member).imp_right fun ⟨below, shallow⟩ => ⟨below, shallow, free⟩

theorem fills_withFile (v : Volume α) {path : Path} (slot : IsSlot top depth path) (content : α) :
    Fills top depth v (v.withFile path content) where
  name := rfl
  root := rfl
  blocked := rfl
  full := rfl
  files := by
    intro other outside
    rw [file?_withFile, if_neg]
    rintro rfl
    rcases outside with elsewhere | shallow
    · exact elsewhere slot.below
    · exact absurd slot.deep (Nat.ne_of_lt shallow)
  folders := fun _ member => member
  made := fun _ member => Or.inl member

theorem fills_makeFolders (v : Volume α) {path : Path} (slot : IsSlot top depth path) :
    Fills top depth v (v.makeFolders [] path.dropLast).2 := by
  apply (growsTo_makeFolders v [] path.dropLast).fills
  intro other member
  rcases mem_folders_makeFolders member with older | ⟨name, front, back, folders, rfl⟩
  · exact Or.inl older
  · exact Or.inr (slot.of_dropLast folders)

theorem snd_write_cases (v : Volume α) (path : Path) (content : α) :
    (v.write path content).2 = v ∨
      (v.write path content).2 = (v.makeFolders [] path.dropLast).2 ∨
        (v.write path content).2 = (v.makeFolders [] path.dropLast).2.withFile path content := by
  unfold write
  split
  · exact Or.inl rfl
  · cases made : v.makeFolders [] path.dropLast with
    | mk result w =>
        cases result with
        | error fault => exact Or.inr (Or.inl rfl)
        | ok _ =>
            simp only
            split
            · exact Or.inr (Or.inl rfl)
            · split
              · exact Or.inr (Or.inl rfl)
              · exact Or.inr (Or.inr rfl)

theorem fills_write (v : Volume α) {path : Path} (slot : IsSlot top depth path) (content : α) :
    Fills top depth v (v.write path content).2 := by
  have made := fills_makeFolders v slot
  rcases snd_write_cases v path content with same | grown | filed
  · rw [same]
    exact Fills.refl v
  · rw [grown]
    exact made
  · rw [filed]
    exact made.trans (fills_withFile _ slot content)

/-- A file that is put into a slot fares as it would have before. -/
theorem fst_write_congr {v w : Volume α} (fills : Fills top depth v w) {path : Path}
    (slot : IsSlot top depth path) (content : α) :
    (w.write path content).1 = (v.write path content).1 := by
  have making : (w.makeFolders [] path.dropLast).1 = (v.makeFolders [] path.dropLast).1 := by
    apply fst_makeFolders_congr
    intro name front back folders
    exact fills.files _ (Or.inr (slot.of_dropLast folders).2)
  -- no folder of the way is as deep as the slot
  have deep : path.head? ≠ some top ∨ depth ≤ path.length := Or.inr (Nat.le_of_eq slot.deep.symm)
  have inPlace : (w.makeFolders [] path.dropLast).2.isFolder path =
      (v.makeFolders [] path.dropLast).2.isFolder path := by
    rw [(fills_makeFolders w slot).isFolder deep, (fills_makeFolders v slot).isFolder deep,
      fills.isFolder deep]
  unfold write
  rw [fills.blocked]
  cases made : v.makeFolders [] path.dropLast with
  | mk result v' =>
      cases made' : w.makeFolders [] path.dropLast with
      | mk result' w' =>
          rw [made, made'] at making inPlace
          have equal : result' = result := making
          have stands : w'.isFolder path = v'.isFolder path := inPlace
          subst equal
          cases result' with
          | error fault => split <;> rfl
          | ok _ =>
              simp only [stands]
              split
              · rfl
              · split
                · rfl
                · split <;> rfl

theorem fills_put (v : Volume α) {path : Path} (plain : IsPlainPath path)
    (slot : IsSlot top depth path) (content : α) :
    Fills top depth v (v.put (keyOf path) content).2 := by
  unfold put
  split
  · exact Fills.refl v
  · rw [resolve_keyOf plain]
    exact fills_write v slot content

theorem fst_put_congr {v w : Volume α} (fills : Fills top depth v w) {path : Path}
    (plain : IsPlainPath path) (slot : IsSlot top depth path) (content : α) :
    (w.put (keyOf path) content).1 = (v.put (keyOf path) content).1 := by
  unfold put
  rw [fills.full, resolve_keyOf plain, resolve_keyOf plain]
  split
  · rfl
  · simp only [(fills_write w slot content).name, (fills_write v slot content).name, fills.name,
      fst_write_congr fills slot]

theorem obstacle?_congr {v w : Volume α} {before rest : Path}
    (same : ∀ name front back, rest = name :: (front ++ back) →
      w.isFolder (before ++ name :: front) = v.isFolder (before ++ name :: front) ∧
        w.file? (before ++ name :: front) = v.file? (before ++ name :: front)) :
    w.obstacle? before rest = v.obstacle? before rest := by
  induction rest generalizing before with
  | nil => rfl
  | cons name rest ih =>
      obtain ⟨folder, file⟩ := same name [] rest rfl
      have onward : w.obstacle? (before ++ [name]) rest = v.obstacle? (before ++ [name]) rest := by
        apply ih
        rintro next front back rfl
        rw [List.append_assoc]
        exact same name (next :: front) back rfl
      simp only [obstacle?, folder, file, onward]

theorem lookup_of_elsewhere {v w : Volume α} (fills : Fills top depth v w) {path : Path}
    (elsewhere : path.head? ≠ some top) : w.lookup path = v.lookup path := by
  have way : w.obstacle? [] path.dropLast = v.obstacle? [] path.dropLast := by
    apply obstacle?_congr
    intro name front back folders
    have apart : (name :: front).head? ≠ some top := by
      intro same
      cases path with
      | nil => cases folders
      | cons first rest =>
          cases rest with
          | nil => cases folders
          | cons second others =>
              rw [List.dropLast_cons_cons] at folders
              exact elsewhere ((congrArg some (List.cons.inj folders).1).trans same)
    exact ⟨fills.isFolder (Or.inl apart), fills.files _ (Or.inl apart)⟩
  unfold lookup
  rw [fills.blocked, way, fills.isFolder (Or.inl elsewhere), fills.files path (Or.inl elsewhere)]

/-- The folder itself holds no content, and may only have been made where no file stood. -/
theorem toOption_lookup_top {v w : Volume α} (fills : Fills top depth v w) (deep : 1 < depth) :
    (w.lookup [top]).toOption = (v.lookup [top]).toOption := by
  have file : w.file? [top] = v.file? [top] := fills.files [top] (Or.inr deep)
  have listed : ∀ u : Volume α, u.isFolder [top] = true ↔ [top] ∈ u.folders := by
    intro u
    simp only [Volume.isFolder, List.isEmpty_cons, Bool.false_or, List.contains_iff_mem]
  unfold lookup
  rw [fills.blocked, file]
  split
  · rfl
  · simp only [List.dropLast_singleton, obstacle?]
    split
    · rfl
    · cases was : v.isFolder [top] with
      | true => rw [isFolder_mono fills.folders was]
      | false =>
          cases is : w.isFolder [top] with
          | false => rfl
          | true =>
              rcases fills.made [top] ((listed w).1 is) with older | ⟨-, -, free⟩
              · rw [(listed v).2 older] at was
                cases was
              · rw [free]
                rfl

/-- What does not lie within the folder that fills up is read as before. -/
theorem toOption_lookup {v w : Volume α} (fills : Fills top depth v w) (deep : 1 < depth)
    {path : Path} (outside : ¬IsWithin top path) :
    (w.lookup path).toOption = (v.lookup path).toOption := by
  by_cases below : path.head? = some top
  · obtain ⟨rest, rfl⟩ := List.head?_eq_some_iff.1 below
    cases rest with
    | nil => exact toOption_lookup_top fills deep
    | cons name others => exact absurd ⟨name, others, rfl⟩ outside
  · rw [lookup_of_elsewhere fills below]

end Volume

namespace Vault

structure Fills (top : String) (depth : Nat) (a b : Vault α) : Prop where
  primary : a.primary.Fills top depth b.primary
  secondary : Option.Rel (Volume.Fills top depth) a.secondary b.secondary
  locked : b.locked = a.locked

namespace Fills

theorem refl (a : Vault α) : Fills top depth a a := by
  refine ⟨Volume.Fills.refl _, ?_, rfl⟩
  cases a.secondary with
  | none => exact .none
  | some v => exact .some (Volume.Fills.refl v)

theorem trans {a b c : Vault α} (first : Fills top depth a b) (second : Fills top depth b c) :
    Fills top depth a c := by
  refine ⟨first.primary.trans second.primary, ?_, second.locked.trans first.locked⟩
  have one := first.secondary
  have two := second.secondary
  generalize a.secondary = u at one
  generalize b.secondary = v at one two
  generalize c.secondary = w at two
  cases one with
  | none => exact two
  | some fills =>
      cases two with
      | some more => exact .some (fills.trans more)

theorem volume? {a b : Vault α} (fills : Fills top depth a b) (store : String) :
    Option.Rel (Volume.Fills top depth) (a.volume? store) (b.volume? store) := by
  unfold Vault.volume?
  rw [fills.primary.name]
  have second := fills.secondary
  generalize a.secondary = v at second
  generalize b.secondary = w at second
  cases second with
  | none =>
      simp only
      split
      · exact .some fills.primary
      · exact .none
  | some more =>
      simp only [more.name]
      split
      · exact .some more
      · split
        · exact .some fills.primary
        · exact .none

theorem location? {a b : Vault α} (fills : Fills top depth a b) (ref : String) :
    b.location? ref = a.location? ref := by
  unfold Vault.location?
  congr 1
  funext r
  have known := fills.volume? r.store
  generalize a.volume? r.store = v at known
  generalize b.volume? r.store = w at known
  cases known with
  | none => rfl
  | some more => rw [Option.bind_some, Option.bind_some, more.root]

theorem toOption_read {a b : Vault α} (fills : Fills top depth a b) (deep : 1 < depth)
    (sound : a.Sound) (after : b.Sound) {ref : String}
    (outside : ∀ store path, a.location? ref = some (store, path) → ¬IsWithin top path) :
    (b.read ref).toOption = (a.read ref).toOption := by
  rw [Vault.toOption_read after, Vault.toOption_read sound, fills.location? ref]
  cases place : a.location? ref with
  | none => rfl
  | some found =>
      obtain ⟨store, path⟩ := found
      have known := fills.volume? store
      rw [Option.bind_some, Option.bind_some]
      unfold readAt
      generalize a.volume? store = v at known
      generalize b.volume? store = w at known
      cases known with
      | none => rfl
      | some more => exact Volume.toOption_lookup more deep (outside store path place)

theorem fst_put {a b : Vault α} (fills : Fills top depth a b) {path : Path}
    (plain : IsPlainPath path) (slot : IsSlot top depth path) (content : α) :
    (b.put (keyOf path) content).1 = (a.put (keyOf path) content).1 := by
  unfold put
  have first := Volume.fst_put_congr fills.primary plain slot content
  have second := fills.secondary
  generalize a.secondary = v at second
  generalize b.secondary = w at second
  cases primary : a.primary.put (keyOf path) content with
  | mk result u =>
      cases primary' : b.primary.put (keyOf path) content with
      | mk result' u' =>
          rw [primary, primary'] at first
          have equal : result' = result := first
          subst equal
          cases result' with
          | ok stored => rfl
          | error fault =>
              cases second with
              | none => rfl
              | some more => simp only [Volume.fst_put_congr more plain slot]

end Fills

theorem fills_put (a : Vault α) {path : Path} (plain : IsPlainPath path)
    (slot : IsSlot top depth path) (content : α) :
    Fills top depth a (a.put (keyOf path) content).2 := by
  have first := Volume.fills_put a.primary plain slot content
  unfold put
  cases primary : a.primary.put (keyOf path) content with
  | mk result u =>
      rw [primary] at first
      have kept : Option.Rel (Volume.Fills top depth) a.secondary a.secondary :=
        (Fills.refl a).secondary
      cases result with
      | ok stored => exact ⟨first, kept, rfl⟩
      | error fault =>
          cases second : a.secondary with
          | none =>
              refine ⟨first, ?_, rfl⟩
              rw [second]
              exact .none
          | some v =>
              refine ⟨first, ?_, rfl⟩
              rw [second]
              exact .some (Volume.fills_put v plain slot content)

end Vault
end Storage
end Issuance
