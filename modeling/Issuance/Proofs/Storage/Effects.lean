import Issuance.Proofs.Storage.Writing
/-!
What a write touches, what it depends on, and why it fails: it touches the file itself, a scratch
file in the same folder and folders on the way; it depends on where folders and files are, but on no
content; and it fails by what the file system raises, or by what stands in its way.
-/

namespace Issuance
namespace Storage

variable {α : Type} {place path : Path}

/-- The files that a change touches are all of one kind, and a folder is on the way to one. -/
def Change.Within (allowed : Path → Prop) : Change α → Prop
  | .folder path => ∃ place, allowed place ∧ path <+: place
  | .file path _ => allowed path
  | .move source target => allowed source ∧ allowed target
  | .removal path => allowed path

namespace Volume

variable {conditions : Conditions α} {v w : Volume α} {content : α} {allowed : Path → Prop}

theorem mem_folderPlan {before rest : Path} {change : Change α}
    (member : change ∈ (v.folderPlan conditions before rest).2) :
    ∃ folder, change = .folder folder ∧ folder <+: before ++ rest := by
  induction rest generalizing v before with
  | nil => cases member
  | cons name rest ih =>
      rw [List.append_cons]
      simp only [folderPlan] at member
      split at member
      · cases member
      · split at member
        · cases member
        · split at member
          · exact ih member
          · split at member
            · cases member
            · rcases List.mem_cons.1 member with rfl | later
              · exact ⟨_, rfl, List.prefix_append _ rest⟩
              · exact ih later

theorem within_movePlan {scratch : Path} (aside : allowed scratch) (inside : allowed path) :
    ∀ change ∈ (v.movePlan conditions scratch path content).2, change.Within allowed := by
  have moved : ∀ c : α, ∀ change ∈ [Change.file scratch c, .move scratch path, .removal scratch],
      change.Within allowed := by
    simp [Change.Within, aside, inside]
  unfold movePlan
  split
  · simp [Change.Within, aside]
  · split
    · simp [Change.Within, aside]
    · split
      · exact moved content
      · exact fun change member => moved content change (List.mem_append_left [_] member)

/-- A write touches the file itself and a scratch file in the same folder. -/
theorem within_writePlan (inside : allowed path)
    (aside : ∀ name, allowed (path.dropLast ++ [name])) {change : Change α}
    (member : change ∈ (v.writePlan conditions path content).2) : change.Within allowed := by
  unfold writePlan at member
  split at member
  · cases member
  · have folders : ∀ made, (v.folderPlan conditions [] path.dropLast).2 = made →
        ∀ change ∈ made, change.Within allowed := by
      rintro made rfl change member
      obtain ⟨folder, rfl, above⟩ := mem_folderPlan member
      exact ⟨path, inside, above.trans (List.dropLast_prefix path)⟩
    split at member
    · cases member
    · next planned => exact folders _ (congrArg Prod.snd planned) change member
    · next planned =>
        rcases List.mem_append.1 member with folder | later
        · exact folders _ (congrArg Prod.snd planned) change folder
        · unfold scratchPlan at later
          split at later
          · cases later
          · split at later
            · exact within_movePlan (aside _) inside change later
            · cases later

theorem file?_change {change : Change α} (within : change.Within allowed)
    (outside : ¬allowed place) : (v.change change).file? place = v.file? place := by
  cases change with
  | folder path => rfl
  | file path content =>
      refine (file?_withFile v path place content).trans (if_neg ?_)
      rintro rfl
      exact outside within
  | move source target =>
      obtain ⟨fromInside, toInside⟩ := within
      cases found : v.file? source with
      | none => simp only [Volume.change, found]
      | some content =>
          rw [change_move found]
          unfold file?
          rw [Assoc.get?_put, Assoc.get?_erase, if_neg, if_neg]
          · rintro rfl
            exact outside fromInside
          · rintro rfl
            exact outside toInside
  | removal path =>
      refine (file?_withoutFile v path place).trans (if_neg ?_)
      rintro rfl
      exact outside within

/-- Changes leave all files alone that they may not touch. -/
theorem file?_replay {changes : List (Change α)}
    (within : ∀ change ∈ changes, change.Within allowed) (outside : ¬allowed place) :
    (v.replay changes).file? place = v.file? place := by
  induction changes generalizing v with
  | nil => rfl
  | cons change rest ih =>
      have onward := @ih (v.change change) fun c member => within c (List.mem_cons_of_mem _ member)
      exact onward.trans (file?_change (within change List.mem_cons_self) outside)

/-- Two volumes have their folders and files at the same places. -/
structure Alike (v w : Volume α) : Prop where
  blocked : w.blocked = v.blocked
  folders : w.folders = v.folders
  paths : w.files.map Prod.fst = v.files.map Prod.fst

namespace Alike

theorem isSome_file? (alike : Alike v w) (path : Path) :
    (w.file? path).isSome = (v.file? path).isSome := by
  unfold file?
  rw [Bool.eq_iff_iff, Assoc.isSome_get?_iff, Assoc.isSome_get?_iff, alike.paths]

theorem isFolder (alike : Alike v w) (path : Path) : w.isFolder path = v.isFolder path := by
  unfold Volume.isFolder
  rw [alike.folders]

theorem isVacant (alike : Alike v w) (path : Path) : w.isVacant path = v.isVacant path := by
  unfold Volume.isVacant
  rw [alike.isFolder, ← Option.not_isSome, ← Option.not_isSome, alike.isSome_file?]

theorem withFolder (alike : Alike v w) (path : Path) :
    Alike (v.change (.folder path)) (w.change (.folder path)) where
  blocked := alike.blocked
  folders := congrArg (· ++ [path]) alike.folders
  paths := alike.paths

theorem folderPlan (alike : Alike v w) (conditions : Conditions α) (before rest : Path) :
    w.folderPlan conditions before rest = v.folderPlan conditions before rest := by
  induction rest generalizing v w before with
  | nil => rfl
  | cons name rest ih =>
      simp only [Volume.folderPlan, alike.isSome_file?, alike.isFolder, ih alike,
        ih (alike.withFolder (before ++ [name]))]

theorem replay_folders (alike : Alike v w) {changes : List (Change α)}
    (folders : ∀ change ∈ changes, ∃ path, change = .folder path) :
    Alike (v.replay changes) (w.replay changes) := by
  induction changes generalizing v w with
  | nil => exact alike
  | cons change rest ih =>
      obtain ⟨path, rfl⟩ := folders change List.mem_cons_self
      exact ih (alike.withFolder path) fun c member => folders c (List.mem_cons_of_mem _ member)

theorem scratchPlan (alike : Alike v w) (conditions : Conditions α) (path : Path) (content : α) :
    w.scratchPlan conditions path content = v.scratchPlan conditions path content := by
  simp only [Volume.scratchPlan, Volume.movePlan, moveFault?, alike.isVacant, alike.isFolder]

/-- What a write does depends on the places of folders and files alone. -/
theorem writePlan (alike : Alike v w) (conditions : Conditions α) (path : Path) (content : α) :
    w.writePlan conditions path content = v.writePlan conditions path content := by
  unfold Volume.writePlan
  rw [alike.blocked, alike.folderPlan]
  cases planned : v.folderPlan conditions [] path.dropLast with
  | mk made changes =>
      have folders := @mem_folderPlan α conditions v [] path.dropLast
      rw [planned] at folders
      have later : Alike (v.replay changes) (w.replay changes) := by
        refine alike.replay_folders fun change member => ?_
        obtain ⟨folder, same, -⟩ := folders member
        exact ⟨folder, same⟩
      cases conditions.root? with
      | some fault => rfl
      | none =>
          cases made with
          | error fault => rfl
          | ok _ => simp only [later.scratchPlan]

theorem obstacle? (alike : Alike v w) (before rest : Path) :
    w.obstacle? before rest = v.obstacle? before rest := by
  induction rest generalizing before with
  | nil => rfl
  | cons name rest ih =>
      simp only [Volume.obstacle?, alike.isSome_file?, alike.isFolder, ih]

theorem lookup (alike : Alike v w) (same : w.file? path = v.file? path) :
    w.lookup path = v.lookup path := by
  unfold Volume.lookup
  rw [alike.blocked, alike.obstacle?, alike.isFolder, same]

theorem filesBelow (alike : Alike v w) (folder : Path) :
    w.filesBelow folder = v.filesBelow folder := by
  unfold Volume.filesBelow
  simp only [alike.blocked, alike.isFolder, alike.paths]

end Alike

theorem number?_of_obstacle? {before rest : Path} {fault : IoFault}
    (met : v.obstacle? before rest = some fault) : fault.number?.isSome = true := by
  induction rest generalizing before with
  | nil => cases met
  | cons name rest ih =>
      simp only [obstacle?] at met
      split at met
      · cases met
        rfl
      · split at met
        · exact ih met
        · split at met <;> cases met <;> rfl

/-- A file that cannot be looked up is refused by the file system, not by its key. -/
theorem number?_of_lookup {fault : IoFault} (failed : v.lookup path = .error fault) :
    fault.number?.isSome = true := by
  unfold lookup at failed
  split at failed
  · cases failed
    rfl
  · split at failed
    · next met =>
        cases failed
        exact number?_of_obstacle? met
    · split at failed
      · cases failed
        rfl
      · split at failed
        · cases failed
          rfl
        · split at failed <;> cases failed
          rfl

end Volume

/-- A fault is one of those that the file system raises. -/
def Conditions.Raises (conditions : Conditions α) (fault : IoFault) : Prop :=
  conditions.root? = some fault ∨ (∃ path, conditions.folder? path = some fault) ∨
    conditions.scratch? = some fault ∨ (∃ part, conditions.content? = some (part, fault)) ∨
      conditions.move? = some fault

namespace Volume

variable {conditions : Conditions α} {v : Volume α} {content : α} {fault : IoFault}

theorem folderPlan_error {before rest : Path}
    (failed : (v.folderPlan conditions before rest).1 = .error fault) :
    (∃ path, conditions.folder? path = some fault) ∨ fault.number?.isSome = true := by
  induction rest generalizing v before with
  | nil => cases failed
  | cons name rest ih =>
      simp only [folderPlan] at failed
      split at failed
      · cases failed
        exact Or.inr rfl
      · split at failed
        · cases failed
          exact Or.inr (by split <;> rfl)
        · split at failed
          · exact ih failed
          · split at failed
            · next refused =>
                cases failed
                exact Or.inl ⟨_, refused⟩
            · exact ih failed

theorem movePlan_error {scratch : Path}
    (failed : (v.movePlan conditions scratch path content).1 = .error fault) :
    conditions.Raises fault ∨ fault.number?.isSome = true := by
  unfold movePlan at failed
  split at failed
  · next broken =>
      cases failed
      exact Or.inl (Or.inr (Or.inr (Or.inr (Or.inl ⟨_, broken⟩))))
  · split at failed
    · next stuck =>
        cases failed
        unfold moveFault? at stuck
        split at stuck
        · next refused =>
            cases stuck
            exact Or.inl (Or.inr (Or.inr (Or.inr (Or.inr refused))))
        · split at stuck
          · cases stuck
            exact Or.inr rfl
          · split at stuck <;> cases stuck
            exact Or.inr rfl
    · split at failed <;> cases failed
      exact Or.inr rfl

theorem scratchPlan_error (failed : (v.scratchPlan conditions path content).1 = .error fault) :
    conditions.Raises fault ∨ fault.number?.isSome = true := by
  unfold scratchPlan at failed
  split at failed
  · next refused =>
      cases failed
      exact Or.inl (Or.inr (Or.inr (Or.inl refused)))
  · split at failed
    · exact movePlan_error failed
    · cases failed
      exact Or.inr rfl

/-- A write fails by what the file system raises, or by what stands in its way. -/
theorem writePlan_error (failed : (v.writePlan conditions path content).1 = .error fault) :
    conditions.Raises fault ∨ fault.number?.isSome = true := by
  unfold writePlan at failed
  split at failed
  · cases failed
    exact Or.inr (by split <;> rfl)
  · have folders := @folderPlan_error α conditions v fault [] path.dropLast
    split at failed
    · next refused =>
        cases failed
        exact Or.inl (Or.inl refused)
    · next planned =>
        rw [planned] at folders
        exact (folders failed).imp_left fun refused => Or.inr (Or.inl refused)
    · exact scratchPlan_error failed

end Volume

end Storage
end Issuance
