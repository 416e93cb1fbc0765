import Issuance.Proofs.Results
import Issuance.Proofs.Storage.Fallback
/-!
What is told of a reference without giving the file: whether it leads to one, and whether there was
one to take away.

A reference that leads to no place of a store is one that leads to no file, for all that a store
can be asked. A vault of two stores has to part a reference before it can ask either of them, and
there a text that is no reference is refused by every question alike.
-/

namespace Issuance
namespace Storage

theorem isMissing_of_ofText {ref : String} {fault : IoFault}
    (refused : Reference.ofText ref = .error fault) : fault.isMissing = true := by
  simp only [Reference.ofText] at refused
  split at refused
  · cases refused
    rfl
  · cases refused

theorem isMissing_of_resolve {root : Path} {key : String} {fault : IoFault}
    (refused : resolve root key = .error fault) : fault.isMissing = true := by
  unfold resolve at refused
  split at refused
  · cases refused
  · cases refused
    rfl

variable {α : Type}

namespace Volume

/-- A store refuses to look for a file only as one that it does not have. -/
theorem isMissing_of_locate {v : Volume α} {ref : String} {fault : IoFault}
    (nowhere : v.locate ref = .error fault) : fault.isMissing = true := by
  rcases bind_eq_error_iff.1 nowhere with unparted | ⟨r, -, elsewhere⟩
  · exact isMissing_of_ofText unparted
  · split at elsewhere
    · exact isMissing_of_resolve elsewhere
    · cases elsewhere
      rfl

theorem delete_of_isMissing {v : Volume α} {ref : String} {fault : IoFault}
    (refused : v.read ref = .error fault) (missing : fault.isMissing = true) :
    v.delete ref = (.ok false, v) := by
  unfold delete
  cases located : v.locate ref with
  | error nowhere => rfl
  | ok path =>
      have looked : v.lookup path = .error fault := by
        unfold read at refused
        rw [located] at refused
        exact refused
      simp only [looked, missing, if_true]

end Volume

namespace Vault

/-- What a vault tells of a reference without giving the file is what reading it would tell: there
is a file if it can be read, and nothing is taken away, as a plain answer, if there is none. -/
structure AgreesWithRead (vault : Vault α) (ref : String) : Prop where
  contains : vault.contains ref = .ok (vault.read ref).isOk
  delete : ∀ fault, vault.read ref = .error fault → fault.isMissing = true →
    vault.delete ref = (.ok false, vault)

/-- The second store, if there is one, has another name. -/
def HasDistinctNames (vault : Vault α) : Prop :=
  ∀ second, vault.secondary = some second → second.name ≠ vault.primary.name

theorem hasDistinctNames_of_pair {primary secondary : Volume α} {vault : Vault α}
    (paired : pair primary secondary = .ok vault) : vault.HasDistinctNames := by
  obtain ⟨different, same⟩ := guard_eq_ok_iff.1 paired
  cases same
  rintro second ⟨rfl⟩
  exact fun alike => different alike.symm

/-- The store that is asked is one of the vault, and it takes its own place. -/
theorem withVolume_of_volumeFor {vault : Vault α} (distinct : vault.HasDistinctNames) {ref : String}
    {v : Volume α} (left : vault.volumeFor ref = .ok v) : vault.withVolume v = vault := by
  obtain ⟨primary, secondary, locked⟩ := vault
  unfold withVolume
  cases secondary with
  | none =>
      cases left
      rfl
  | some second =>
      obtain ⟨r, -, chosen⟩ := bind_eq_ok_iff.1 left
      by_cases ofSecond : r.store = second.name
      · cases (if_pos ofSecond).symm.trans (Except.ok.inj chosen)
        exact if_pos rfl
      · cases (if_neg ofSecond).symm.trans (Except.ok.inj chosen)
        exact if_neg fun alike => distinct second rfl alike.symm

theorem agreesWithRead_of_volumeFor {vault : Vault α} (distinct : vault.HasDistinctNames)
    (unlocked : vault.locked = false) {ref : String} {v : Volume α}
    (left : vault.volumeFor ref = .ok v) : vault.AgreesWithRead ref := by
  have asked : vault.read ref = v.read ref := by
    unfold read
    rw [left]
    rfl
  refine ⟨?_, fun fault refused missing => ?_⟩
  · unfold contains
    rw [left, asked, ← v.contains_eq_isOk_read]
    rfl
  · rw [asked] at refused
    unfold delete
    rw [unlocked, left]
    simp only [Bool.false_eq_true, if_false, Volume.delete_of_isMissing refused missing,
      withVolume_of_volumeFor distinct left]

/-- A text that is no reference is refused by everything that a vault of two stores is asked. -/
structure Refuses (vault : Vault α) (ref : String) (fault : IoFault) : Prop where
  read : vault.read ref = .error fault
  contains : vault.contains ref = .error fault
  delete : vault.delete ref = (.error fault, vault)

theorem refuses_of_volumeFor {vault : Vault α} (unlocked : vault.locked = false) {ref : String}
    {fault : IoFault} (unparted : vault.volumeFor ref = .error fault) :
    vault.Refuses ref fault where
  read := by
    unfold read
    rw [unparted]
    rfl
  contains := by
    unfold contains
    rw [unparted]
    rfl
  delete := by
    unfold delete
    rw [unlocked, unparted]
    rfl

theorem Refuses.not_agreesWithRead {vault : Vault α} {ref : String} {fault : IoFault}
    (refuses : vault.Refuses ref fault) : ¬vault.AgreesWithRead ref := by
  intro agrees
  have told := agrees.contains
  rw [refuses.contains] at told
  cases told

/-- A single store never asks whom a reference is left to, and two stores do so once it has been
parted. -/
theorem volumeFor_cases_of_ofText (vault : Vault α) (ref : String) :
    (vault.secondary = none ∨ ∃ r, Reference.ofText ref = .ok r) ∧
        (∃ v, vault.volumeFor ref = .ok v) ∨
      ∃ second fault, vault.secondary = some second ∧ Reference.ofText ref = .error fault ∧
        vault.volumeFor ref = .error fault := by
  unfold volumeFor
  cases vault.secondary with
  | none => exact Or.inl ⟨Or.inl rfl, _, rfl⟩
  | some second =>
      cases parted : Reference.ofText ref with
      | error fault => exact Or.inr ⟨second, fault, rfl, rfl, rfl⟩
      | ok r => exact Or.inl ⟨Or.inr ⟨r, rfl⟩, _, rfl⟩

/-- A single store and a vault of two tell of a reference what reading it would tell, with the one
exception of a text that is no reference, which a vault of two stores refuses as a missing file,
whatever it is asked. Every reference that leads to no place of its store counts as one to a missing
file. -/
theorem presence_agrees_with_read {vault : Vault α} (distinct : vault.HasDistinctNames)
    (unlocked : vault.locked = false) (ref : String) :
    (vault.AgreesWithRead ref ↔ vault.secondary = none ∨ ∃ r, Reference.ofText ref = .ok r) ∧
    (∀ second fault, vault.secondary = some second → Reference.ofText ref = .error fault →
      fault.isMissing = true ∧ vault.Refuses ref fault) ∧
    ∀ v fault, vault.volumeFor ref = .ok v → v.locate ref = .error fault →
      fault.isMissing = true ∧ vault.read ref = .error fault := by
  refine ⟨?_, ?_, ?_⟩
  · rcases vault.volumeFor_cases_of_ofText ref with
      ⟨known, v, left⟩ | ⟨second, fault, paired, unparted, refused⟩
    · exact iff_of_true (agreesWithRead_of_volumeFor distinct unlocked left) known
    · refine iff_of_false (refuses_of_volumeFor unlocked refused).not_agreesWithRead ?_
      rintro (alone | ⟨r, parted⟩)
      · rw [paired] at alone
        cases alone
      · rw [unparted] at parted
        cases parted
  · intro second fault paired unparted
    refine ⟨isMissing_of_ofText unparted, refuses_of_volumeFor unlocked ?_⟩
    unfold volumeFor
    rw [paired, unparted]
    rfl
  · intro v fault left nowhere
    refine ⟨Volume.isMissing_of_locate nowhere, ?_⟩
    unfold read
    rw [left]
    change v.read ref = _
    unfold Volume.read
    rw [nowhere]
    rfl

theorem twoStores_presence_agrees :
    twoStores.HasDistinctNames ∧ twoStores.locked = false ∧
      twoStores.AgreesWithRead "spare:certs/../../etc" := by
  have distinct : twoStores.HasDistinctNames := by
    rintro second ⟨rfl⟩
    decide
  refine ⟨distinct, rfl, (presence_agrees_with_read distinct rfl _).1.2 (Or.inr ?_)⟩
  exact ⟨⟨"spare", "certs/../../etc"⟩, by decide +kernel⟩

/-- A text without a colon is refused by two stores, where each of them would just have no such
file. -/
theorem twoStores_refuse_a_text :
    twoStores.contains "no-separator" = .error (.malformedReference "'no-separator'") ∧
      twoStores.delete "no-separator" =
        (.error (.malformedReference "'no-separator'"), twoStores) ∧
      (IoFault.malformedReference "'no-separator'").isMissing = true ∧
      ¬twoStores.AgreesWithRead "no-separator" := by
  have unparted : twoStores.volumeFor "no-separator" =
      .error (.malformedReference "'no-separator'") := by
    have parted : Reference.ofText "no-separator" =
        .error (.malformedReference "'no-separator'") := by decide +kernel
    unfold volumeFor
    rw [parted]
    rfl
  have refuses : twoStores.Refuses "no-separator" (.malformedReference "'no-separator'") :=
    refuses_of_volumeFor rfl unparted
  exact ⟨refuses.contains, refuses.delete, rfl, refuses.not_agreesWithRead⟩

end Vault
end Storage
end Issuance
