import Issuance.Batch.Attempt
import Issuance.Proofs.Storage.Volumes
/-!
The values of the standard fields: once codes are drawn, every field has one.
-/

namespace Issuance

theorem Assoc.get?_filterMap {κ α : Type} [DecidableEq κ] {keys : List κ} {source : κ → Option α}
    {key : κ} {value : α} (known : key ∈ keys) (found : source key = some value) :
    get? key (keys.filterMap fun k => (source k).map fun v => (k, v)) = some value := by
  induction keys with
  | nil => cases known
  | cons first rest ih =>
      by_cases same : first = key
      · subst same
        rw [List.filterMap_cons_some (by rw [found]; rfl)]
        simp only [get?, if_true]
      · have later := ih ((List.mem_cons.1 known).resolve_left fun equal => same equal.symm)
        cases there : source first with
        | none =>
            rw [List.filterMap_cons_none (by rw [there]; rfl)]
            exact later
        | some other =>
            rw [List.filterMap_cons_some (by rw [there]; rfl)]
            simp only [get?, if_neg same]
            exact later

theorem Assoc.get?_filterMap_of_not_mem {κ α : Type} [DecidableEq κ] {keys : List κ}
    {source : κ → Option α} {key : κ} (unknown : key ∉ keys) :
    get? key (keys.filterMap fun k => (source k).map fun v => (k, v)) = none := by
  induction keys with
  | nil => rfl
  | cons first rest ih =>
      have different : first ≠ key := fun same => unknown (same ▸ List.mem_cons_self)
      have later := ih fun member => unknown (List.mem_cons_of_mem first member)
      cases there : source first with
      | none =>
          rw [List.filterMap_cons_none (by rw [there]; rfl)]
          exact later
      | some other =>
          rw [List.filterMap_cons_some (by rw [there]; rfl)]
          simp only [get?, if_neg different]
          exact later

namespace Award

theorem mem_keys_allValues {a : Award} {codes : CodePair} (drawn : a.codes = some codes)
    (address : VerifyAddress) {key : String} (known : key ∈ Catalog.standard.keys) :
    key ∈ (a.allValues address).map Prod.fst := by
  have covered : ∀ key ∈ Catalog.standard.keys, key ∈ ["participant_name", "participant_email",
      "participant_phone", "participant_organization", "event_title", "event_description",
      "event_location", "event_start_date", "event_end_date", "event_date_range",
      "event_organizer", "registration_date", "attendance_date", "registration_id",
      "certificate_issue_date", "certificate_serial", "certificate_code", "verification_code",
      "certificate_url"] := by
    decide
  unfold allValues
  rw [drawn]
  exact covered key known

/-- Every standard field has a value once codes are drawn. -/
theorem exists_value {a : Award} {codes : CodePair} (drawn : a.codes = some codes)
    (address : VerifyAddress) {key : String} (known : key ∈ Catalog.standard.keys) :
    ∃ value, Assoc.get? key (a.values .standard address) = some value := by
  have sourced := (Assoc.isSome_get?_iff key _).2 (mem_keys_allValues drawn address known)
  obtain ⟨value, found⟩ := Option.isSome_iff_exists.1 sourced
  exact ⟨value, Assoc.get?_filterMap known found⟩

theorem participantName_values (a : Award) (catalog : Catalog) (address : VerifyAddress) :
    (Assoc.get? "participant_name" (a.values catalog address)).getD "" =
      if catalog.contains "participant_name" then textOr a.registration.name "" else "" := by
  have sourced : Assoc.get? "participant_name" (a.allValues address) =
      some (textOr a.registration.name "") := by
    unfold allValues
    cases a.codes <;> rfl
  unfold values
  cases known : catalog.contains "participant_name" with
  | true => rw [Assoc.get?_filterMap (List.contains_iff_mem.1 known) sourced, Option.getD_some,
      if_pos rfl]
  | false =>
      have unknown : "participant_name" ∉ catalog.keys := by
        intro member
        rw [Catalog.contains, List.contains_iff_mem.2 member] at known
        cases known
      rw [Assoc.get?_filterMap_of_not_mem unknown]
      rfl

end Award

namespace Batch

/-- The name under which something may be about to happen to a participant's drawing. -/
def Commission.nameFor (commission : Commission) (registration : Registration) : String :=
  if commission.catalog.contains "participant_name" then textOr registration.name "" else ""

theorem participantName_valuesFor (commission : Commission) (candidate : Candidate)
    (office : Office) (codes : CodePair) :
    (Assoc.get? "participant_name" (valuesFor commission candidate office codes)).getD "" =
      commission.nameFor candidate.registration :=
  Award.participantName_values _ _ _

theorem exists_valueFor {commission : Commission} (standard : commission.catalog = .standard)
    (candidate : Candidate) (office : Office) (codes : CodePair) {key : String}
    (known : key ∈ Catalog.standard.keys) :
    ∃ value, Assoc.get? key (valuesFor commission candidate office codes) = some value := by
  unfold valuesFor
  rw [standard]
  exact Award.exists_value rfl _ known

end Batch
end Issuance
