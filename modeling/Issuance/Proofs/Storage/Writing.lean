import Mathlib.Data.Fintype.EquivFin
import Issuance.Proofs.Storage.Records
import Issuance.Storage.Writing
/-!
What writing step by step comes to. If every step is granted it is an ordinary write; if one is
refused, folders may have been made, but all files are as they were, and no scratch file is left.

Two stores, one behind the other: whatever is refused in them, a put leads to the first store that
has taken the file, and the reference leads back to it for as long as the file stays there.
-/

namespace Issuance

/-- What was put under a new key and is taken away again leaves nothing behind. -/
theorem Assoc.erase_put {κ α : Type} [DecidableEq κ] {key : κ} (value : α)
    {pairs : List (κ × α)} (fresh : get? key pairs = none) :
    erase key (put key value pairs) = pairs := by
  induction pairs with
  | nil => simp [put, erase]
  | cons pair rest ih =>
      obtain ⟨k, v⟩ := pair
      by_cases same : k = key
      · simp [get?, same] at fresh
      · rw [get?, if_neg same] at fresh
        simp [put, erase, same, ih fresh]

namespace Storage
namespace Volume

variable {α : Type} {conditions : Conditions α} {v w : Volume α} {path : Path} {content : α}

theorem replay_append (v : Volume α) (changes others : List (Change α)) :
    v.replay (changes ++ others) = (v.replay changes).replay others :=
  List.foldl_append

/-- The folders that are planned are those that are made, or one of them is refused. -/
theorem folderPlan_cases (conditions : Conditions α) (v : Volume α) (before rest : Path) :
    v.makeFolders before rest =
        ((v.folderPlan conditions before rest).1,
          v.replay (v.folderPlan conditions before rest).2) ∨
      ∃ place fault, conditions.folder? place = some fault ∧
        (v.folderPlan conditions before rest).1 = .error fault := by
  induction rest generalizing v before with
  | nil => exact Or.inl rfl
  | cons name rest ih =>
      simp only [makeFolders, folderPlan]
      split
      · exact Or.inl rfl
      · split
        · exact Or.inl rfl
        · split
          · exact ih v (before ++ [name])
          · cases refused : conditions.folder? (before ++ [name]) with
            | some fault => exact Or.inr ⟨before ++ [name], fault, refused, rfl⟩
            | none => exact ih (v.change (.folder (before ++ [name]))) (before ++ [name])

theorem growsTo_folderPlan (conditions : Conditions α) (v : Volume α) (before rest : Path) :
    v.GrowsTo (v.replay (v.folderPlan conditions before rest).2) := by
  induction rest generalizing v before with
  | nil => exact GrowsTo.refl v
  | cons name rest ih =>
      simp only [folderPlan]
      split
      · exact GrowsTo.refl v
      · split
        · exact GrowsTo.refl v
        · next free =>
            split
            · exact ih v (before ++ [name])
            · cases conditions.folder? (before ++ [name]) with
              | some fault => exact GrowsTo.refl v
              | none =>
                  have empty : v.file? (before ++ [name]) = none := by
                    simpa only [Bool.not_eq_true, Option.isSome_eq_false_iff,
                      Option.isNone_iff_eq_none] using free
                  exact (growsTo_withFolder empty).trans (ih _ (before ++ [name]))

theorem file?_of_isVacant (vacant : v.isVacant path = true) : v.file? path = none :=
  Option.isNone_iff_eq_none.1 ((Bool.and_eq_true _ _).mp vacant).2

theorem isVacant_of_not_mem (inside : path ≠ []) (noFolder : path ∉ v.folders)
    (noFile : path ∉ v.files.map Prod.fst) : v.isVacant path = true := by
  have notRoot : path.isEmpty = false := List.isEmpty_eq_false_iff.2 inside
  rw [← List.contains_iff_mem, Bool.not_eq_true] at noFolder
  rw [← Assoc.isSome_get?_iff, Bool.not_eq_true, Option.isSome_eq_false_iff] at noFile
  simp only [isVacant, isFolder, notRoot, noFolder, Bool.or_self, Bool.not_false, Bool.true_and]
  exact noFile

/-- A scratch file that is taken away leaves the volume as it was. -/
theorem replay_scratch {scratch : Path} (free : v.file? scratch = none) (part : α) :
    v.replay [.file scratch part, .removal scratch] = v := by
  simp only [replay, List.foldl_cons, List.foldl_nil, change, Assoc.erase_put part free]

theorem change_move {source : Path} (found : v.file? source = some content) (target : Path) :
    v.change (.move source target) =
      { v with files := Assoc.put target content (Assoc.erase source v.files) } := by
  simp only [change, found]

/-- A scratch file that is moved to its place is the file that was to be written. -/
theorem replay_moved {scratch : Path} (free : v.file? scratch = none) (path : Path) (content : α) :
    v.replay [.file scratch content, .move scratch path] = v.withFile path content := by
  have found : (v.withFile scratch content).file? scratch = some content := by
    rw [file?_withFile, if_pos rfl]
  calc v.replay [.file scratch content, .move scratch path]
      = (v.withFile scratch content).change (.move scratch path) := rfl
    _ = v.withFile path content := by
      rw [change_move found]
      simp only [withFile, Assoc.erase_put content free]

theorem moveFault?_eq_none (granted : v.moveFault? conditions path = none) :
    (path.getLast?.map isTooLong).getD false = false ∧ v.isFolder path = false := by
  unfold moveFault? at granted
  split at granted
  · cases granted
  · split at granted
    · cases granted
    · next short =>
        split at granted
        · cases granted
        · next noFolder => exact ⟨eq_false_of_ne_true short, eq_false_of_ne_true noFolder⟩

/-- The scratch file is moved to its place, or nothing is left of it. -/
theorem movePlan_cases (conditions : Conditions α) {scratch : Path} (free : v.file? scratch = none)
    (path : Path) (content : α) :
    (∃ fault changes, v.movePlan conditions scratch path content = (.error fault, changes) ∧
        v.replay changes = v) ∨
      ∃ changes, v.movePlan conditions scratch path content = (.ok (), changes) ∧
        v.replay changes = v.withFile path content ∧ v.moveFault? conditions path = none := by
  unfold movePlan
  cases conditions.content? with
  | some broken =>
      obtain ⟨part, fault⟩ := broken
      exact Or.inl ⟨fault, _, rfl, replay_scratch free part⟩
  | none =>
      cases granted : v.moveFault? conditions path with
      | some fault => exact Or.inl ⟨fault, _, rfl, replay_scratch free content⟩
      | none =>
          simp only
          split
          · next same =>
              subst same
              refine Or.inl ⟨_, _, rfl, ?_⟩
              have moved := replay_moved free scratch content
              calc v.replay [.file scratch content, .move scratch scratch, .removal scratch]
                  = (v.replay [.file scratch content, .move scratch scratch]).change
                      (.removal scratch) := rfl
                _ = (v.withFile scratch content).change (.removal scratch) := by rw [moved]
                _ = v := replay_scratch free content
          · exact Or.inr ⟨_, rfl, replay_moved free path content, trivial⟩

theorem scratchPlan_cases (conditions : Conditions α) (v : Volume α) (path : Path) (content : α) :
    (∃ fault changes, v.scratchPlan conditions path content = (.error fault, changes) ∧
        v.replay changes = v) ∨
      ∃ changes, v.scratchPlan conditions path content = (.ok (), changes) ∧
        v.replay changes = v.withFile path content ∧ v.moveFault? conditions path = none := by
  unfold scratchPlan
  cases conditions.scratch? with
  | some fault => exact Or.inl ⟨fault, [], rfl, rfl⟩
  | none =>
      cases offered : conditions.names.find? fun name => v.isVacant (path.dropLast ++ [name]) with
      | none => exact Or.inl ⟨.exists, [], rfl, rfl⟩
      | some name =>
          have vacant := List.find?_some (p := fun name => v.isVacant (path.dropLast ++ [name]))
            offered
          exact movePlan_cases conditions (file?_of_isVacant vacant) path content

/-- Under any conditions a write step by step does what an ordinary one does, or fails and leaves a
volume that has grown by folders at most. -/
theorem writeThrough_cases (conditions : Conditions α) (v : Volume α) (path : Path) (content : α) :
    (∃ fault w, v.writeThrough conditions path content = (.error fault, w) ∧ v.GrowsTo w) ∨
      ∃ w, v.writeThrough conditions path content = (.ok (), w) ∧
        v.write path content = (.ok (), w) := by
  unfold writeThrough writePlan
  cases blocked : v.blocked with
  | true => exact Or.inl ⟨_, v, rfl, GrowsTo.refl v⟩
  | false =>
      simp only [Bool.false_eq_true, if_false]
      cases conditions.root? with
      | some fault => exact Or.inl ⟨fault, v, rfl, GrowsTo.refl v⟩
      | none =>
          have grown := growsTo_folderPlan conditions v [] path.dropLast
          have planned := folderPlan_cases conditions v [] path.dropLast
          cases folders : v.folderPlan conditions [] path.dropLast with
          | mk made changes =>
              rw [folders] at grown planned
              cases made with
              | error fault => exact Or.inl ⟨fault, _, rfl, grown⟩
              | ok _ =>
                  have made : v.makeFolders [] path.dropLast = (.ok (), v.replay changes) := by
                    rcases planned with made | ⟨place, fault, -, impossible⟩
                    · exact made
                    · cases impossible
                  simp only
                  rcases scratchPlan_cases conditions (v.replay changes) path content with
                    ⟨fault, others, failed, same⟩ | ⟨others, done, moved, granted⟩
                  · rw [failed]
                    refine Or.inl ⟨fault, _, rfl, ?_⟩
                    rw [replay_append, same]
                    exact grown
                  · obtain ⟨short, noFolder⟩ := moveFault?_eq_none granted
                    rw [done]
                    refine Or.inr ⟨_, rfl, ?_⟩
                    simp only [write, blocked, made, short, noFolder, Bool.false_eq_true, if_false,
                      replay_append, moved]
                    rfl

theorem putThrough_cases (conditions : Conditions α) (v : Volume α) (key : String) (content : α) :
    (∃ fault w, v.putThrough conditions key content = (.error fault, w) ∧ v.GrowsTo w) ∨
      ∃ stored w, v.putThrough conditions key content = (.ok stored, w) ∧
        v.put key content = (.ok stored, w) := by
  unfold putThrough put
  cases v.full with
  | true => exact Or.inl ⟨_, v, rfl, GrowsTo.refl v⟩
  | false =>
      cases resolve v.root key with
      | error fault => exact Or.inl ⟨fault, v, rfl, GrowsTo.refl v⟩
      | ok path =>
          simp only [Bool.false_eq_true, if_false]
          rcases writeThrough_cases conditions v path content with
            ⟨fault, w, failed, grown⟩ | ⟨w, done, written⟩
          · rw [failed]
            exact Or.inl ⟨fault, w, rfl, grown⟩
          · rw [done, written]
            exact Or.inr ⟨_, w, rfl, rfl⟩

/-- A scratch file under a free name of its own, with every step granted. -/
theorem movePlan_fair (names : List String) {scratch : Path} (free : v.file? scratch = none)
    (apart : scratch ≠ path) (content : α) :
    ((v.movePlan (.fair names) scratch path content).1,
        v.replay (v.movePlan (.fair names) scratch path content).2) =
      if (path.getLast?.map isTooLong).getD false then (.error .nameTooLong, v)
      else if v.isFolder path then (.error .isDirectory, v)
      else (.ok (), v.withFile path content) := by
  unfold movePlan moveFault? Conditions.fair
  cases (path.getLast?.map isTooLong).getD false with
  | true => simp only [if_true, replay_scratch free]
  | false =>
      cases v.isFolder path with
      | true => simp only [Bool.false_eq_true, if_false, if_true, replay_scratch free]
      | false => simp only [Bool.false_eq_true, if_false, if_neg apart, replay_moved free]

/-- Some name that is offered is free in the folder of a file, and none is that of the file. -/
def Offers (names : List String) (v : Volume α) (path : Path) : Prop :=
  (∃ name ∈ names, (v.makeFolders [] path.dropLast).2.isVacant (path.dropLast ++ [name]) = true) ∧
    ∀ name ∈ names, path.dropLast ++ [name] ≠ path

theorem writeThrough_fair {names : List String} (offers : v.Offers names path) (content : α) :
    v.writeThrough (.fair names) path content = v.write path content := by
  obtain ⟨⟨name, member, vacant⟩, apart⟩ := offers
  unfold writeThrough writePlan write
  cases v.blocked with
  | true => rfl
  | false =>
      have planned := folderPlan_cases (Conditions.fair names) v [] path.dropLast
      cases folders : v.folderPlan (Conditions.fair names) [] path.dropLast with
      | mk made changes =>
          have whole : v.makeFolders [] path.dropLast = (made, v.replay changes) := by
            rw [folders] at planned
            rcases planned with whole | ⟨place, fault, impossible, -⟩
            · exact whole
            · cases impossible
          rw [whole] at vacant ⊢
          cases made with
          | error fault => rfl
          | ok _ =>
              have known : (names.find? fun name =>
                  (v.replay changes).isVacant (path.dropLast ++ [name])).isSome = true :=
                List.find?_isSome.2 ⟨name, member, vacant⟩
              obtain ⟨chosen, found⟩ := Option.isSome_iff_exists.1 known
              have free := file?_of_isVacant (List.find?_some (p := fun name =>
                (v.replay changes).isVacant (path.dropLast ++ [name])) found)
              have moved := movePlan_fair names free
                (apart chosen (List.mem_of_find?_eq_some found)) content
              simp only [Conditions.fair, scratchPlan, found, replay_append, Bool.false_eq_true,
                if_false]
              exact moved

theorem putThrough_fair {names : List String} {key : String}
    (offers : ∀ path, resolve v.root key = .ok path → v.Offers names path) (content : α) :
    v.putThrough (.fair names) key content = v.put key content := by
  unfold putThrough put
  cases v.full with
  | true => rfl
  | false =>
      cases found : resolve v.root key with
      | error fault => rfl
      | ok path => simp only [writeThrough_fair (offers path found)]

/-- Only finitely many names are not free for a scratch file. -/
theorem exists_taken (v : Volume α) (path : Path) :
    ∃ taken : List String, ∀ name ∉ taken, v.Offers [name] path := by
  let w := (v.makeFolders [] path.dropLast).2
  refine ⟨(path :: (w.folders ++ w.files.map Prod.fst)).filterMap List.getLast?, ?_⟩
  intro name free
  have away : path.dropLast ++ [name] ∉ path :: (w.folders ++ w.files.map Prod.fst) :=
    fun member => free (List.mem_filterMap.2 ⟨_, member, List.getLast?_concat⟩)
  rw [List.mem_cons, List.mem_append, not_or, not_or] at away
  obtain ⟨apart, noFolder, noFile⟩ := away
  refine ⟨⟨name, List.mem_singleton_self name, ?_⟩, ?_⟩
  · refine isVacant_of_not_mem ?_ noFolder noFile
    exact List.append_ne_nil_of_right_ne_nil _ (List.cons_ne_nil _ _)
  · intro other member
    rw [List.mem_singleton.1 member]
    exact apart

theorem exists_taken_of_key (v : Volume α) (key : String) :
    ∃ taken : List String, ∀ name ∉ taken, ∀ path, resolve v.root key = .ok path →
      v.Offers [name] path := by
  cases resolve v.root key with
  | error fault => exact ⟨[], fun _ _ _ impossible => nomatch impossible⟩
  | ok path =>
      obtain ⟨taken, free⟩ := v.exists_taken path
      exact ⟨taken, fun name fresh other same => Except.ok.inj same ▸ free name fresh⟩

end Volume
end Storage
end Issuance
