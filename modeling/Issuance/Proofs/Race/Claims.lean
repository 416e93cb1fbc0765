import Issuance.Proofs.History
import Issuance.Proofs.Race.Steps
/-!
What a batch in a race has to itself: the codes that its attempt has drawn, and the place of the
file that it has put. No step of another batch takes them away, and no row stands for them.
-/

namespace Issuance
namespace Batch
namespace Race

variable {ι : Type}

/-- Batch `i` has drawn codes for a registration, and no row for it has them. -/
structure Claims (race : Race ι) (i : ι) (registration : Int) (codes : CodePair) : Prop where
  generated : codes.IsGenerated
  drawn : (i, registration, codes.certificate) ∈ race.draws
  free : ∀ c ∈ race.office.ledger.certificates,
    ¬(c.eventId = (race.runners i).commission.event.id ∧ c.registrationId = registration ∧
      c.codes.certificate = codes.certificate)

/-- Draws of different batches for the same registration differ. -/
theorem Claims.code_ne {race later : Race ι} (apart : later.DrawsApart)
    (draws : race.draws <+: later.draws) {i j : ι} (different : j ≠ i) {registration : Int}
    {codes codes' : CodePair} (first : race.Claims i registration codes)
    (second : race.Claims j registration codes') : codes'.certificate ≠ codes.certificate := by
  intro same
  have drawn := draws.subset second.drawn
  rw [same] at drawn
  exact different (apart j i registration codes.certificate drawn (draws.subset first.drawn))

theorem DrawsApart.of_prefix {race later : Race ι} (apart : later.DrawsApart)
    (draws : race.draws <+: later.draws) : race.DrawsApart :=
  fun i j registration code first second =>
    apart i j registration code (draws.subset first) (draws.subset second)

variable [DecidableEq ι]

/-- Batch `i` has put a file for codes that it has claimed, and it is still there. -/
structure HasFile (race : Race ι) (i : ι) (registration : Int) (codes : CodePair) (format : String)
    (place : Storage.StoredObject) : Prop where
  claims : race.Claims i registration codes
  artifact : IsArtifactRef race.office.vault (race.runners i).commission.event.id registration codes
    place.ref.text place.ref.store format
  put : ∃ content, Assoc.get? i race.puts = some (place.ref.text, content) ∧
    race.office.vault.read place.ref.text = .ok content

/-- What batch `i` has to itself at the stage of its attempt. -/
def Orderly (race : Race ι) (i : ι) : Prop :=
  match (race.runners i).waiting, (race.runners i).attempt.stage with
  | [], stage => stage = .opening
  | registration :: _, .producing _ codes => race.Claims i registration.id codes
  | registration :: _, .filing _ codes format place =>
      race.HasFile i registration.id codes format place
  | registration :: _, .withdrawing _ place =>
      ∃ codes format, race.HasFile i registration.id codes format place
  | _ :: _, .settled _ => False
  | _ :: _, _ => True

/-- An orderly attempt that has someone to serve is ready for its next step. -/
theorem Orderly.ready {race : Race ι} {i : ι} {registration : Registration}
    {rest : List Registration} (orderly : race.Orderly i)
    (waiting : (race.runners i).waiting = registration :: rest) :
    (race.runners i).attempt.HasCodes ∧ (race.runners i).attempt.isSettled = false := by
  unfold Orderly at orderly
  unfold Attempt.HasCodes Attempt.isSettled
  rw [waiting] at orderly
  cases stage : (race.runners i).attempt.stage with
  | opening | drawing => exact ⟨trivial, rfl⟩
  | producing left codes =>
      rw [stage] at orderly
      have claims : race.Claims i registration.id codes := orderly
      exact ⟨claims.generated, rfl⟩
  | filing left codes format place =>
      rw [stage] at orderly
      have file : race.HasFile i registration.id codes format place := orderly
      exact ⟨file.claims.generated, rfl⟩
  | withdrawing left place => exact ⟨trivial, rfl⟩
  | settled outcome =>
      rw [stage] at orderly
      exact orderly.elim

theorem Orderly.claims {race : Race ι} {i : ι} {registration : Registration}
    {rest : List Registration} (orderly : race.Orderly i)
    (waiting : (race.runners i).waiting = registration :: rest) {left : Nat} {codes : CodePair}
    (stage : (race.runners i).attempt.stage = .producing left codes) :
    race.Claims i registration.id codes := by
  unfold Orderly at orderly
  rw [waiting, stage] at orderly
  exact orderly

theorem Orderly.hasFile {race : Race ι} {i : ι} {registration : Registration}
    {rest : List Registration} (orderly : race.Orderly i)
    (waiting : (race.runners i).waiting = registration :: rest) {left : Nat} {codes : CodePair}
    {format : String} {place : Storage.StoredObject}
    (stage : (race.runners i).attempt.stage = .filing left codes format place) :
    race.HasFile i registration.id codes format place := by
  unfold Orderly at orderly
  rw [waiting, stage] at orderly
  exact orderly

theorem Orderly.exists_hasFile {race : Race ι} {i : ι} {registration : Registration}
    {rest : List Registration} (orderly : race.Orderly i)
    (waiting : (race.runners i).waiting = registration :: rest) {left : Nat}
    {place : Storage.StoredObject}
    (stage : (race.runners i).attempt.stage = .withdrawing left place) :
    ∃ codes format, race.HasFile i registration.id codes format place := by
  unfold Orderly at orderly
  rw [waiting, stage] at orderly
  exact orderly

/-- What a step of batch `i` for a registration may change, as the other batches see it. -/
structure Passes (race later : Race ι) (i : ι) (registration : Int) : Prop where
  sound : later.office.Sound
  others : ∀ j, j ≠ i → later.runners j = race.runners j
  commission : (later.runners i).commission = (race.runners i).commission
  draws : race.draws <+: later.draws
  puts : ∀ j, j ≠ i → Assoc.get? j later.puts = Assoc.get? j race.puts
  rows : later.office.ledger.certificates = race.office.ledger.certificates ∨
    ∃ row, race.Claims i registration row.codes ∧
      row.eventId = (race.runners i).commission.event.id ∧ row.registrationId = registration ∧
        later.office.ledger.certificates = race.office.ledger.certificates ++ [row]
  frame : Storage.Vault.Frame
    (fun _ path => ∃ codes format, race.Claims i registration codes ∧
      path = artifactPath (race.runners i).commission.event.id registration codes.certificate format)
    race.office.vault later.office.vault
  locked : later.office.vault.locked = race.office.vault.locked

/-- Rows stay readable through every step. -/
theorem Passes.guards {race later : Race ι} {i : ι} {registration : Int} (sound : race.office.Sound)
    (passes : race.Passes later i registration) : Office.Guards race.office later.office := by
  refine Office.guards_of_frame sound passes.frame ?_
  rintro c member store path here ⟨codes, format, claims, rfl⟩
  obtain ⟨store', format', artifact⟩ := sound.kept c member
  exact artifact.ne_of_code_ne claims.generated (claims.free c member) here

theorem Passes.mem_of_mem {race later : Race ι} {i : ι} {registration : Int}
    (passes : race.Passes later i registration) {c : Certificate}
    (member : c ∈ race.office.ledger.certificates) : c ∈ later.office.ledger.certificates := by
  rcases passes.rows with same | ⟨row, -, -, -, added⟩
  · rw [same]
    exact member
  · rw [added]
    exact List.mem_append_left _ member

theorem Claims.passes {race later : Race ι} {i j : ι} {registration registration' : Int}
    {codes : CodePair} (apart : later.DrawsApart) (different : j ≠ i)
    (passes : race.Passes later i registration) (claims : race.Claims j registration' codes) :
    later.Claims j registration' codes where
  generated := claims.generated
  drawn := passes.draws.subset claims.drawn
  free := by
    rw [passes.others j different]
    intro c member
    rcases passes.rows with same | ⟨row, claimed, -, ofRegistration, added⟩
    · exact claims.free c (same ▸ member)
    · rw [added] at member
      rcases List.mem_append.1 member with older | last
      · exact claims.free c older
      · rw [List.mem_singleton.1 last]
        rintro ⟨-, ofOther, sameCode⟩
        have registrations : registration = registration' := ofRegistration.symm.trans ofOther
        subst registrations
        exact claims.code_ne apart passes.draws (Ne.symm different) claimed sameCode

theorem HasFile.passes {race later : Race ι} {i j : ι} {registration registration' : Int}
    {codes : CodePair} {format : String} {place : Storage.StoredObject} (sound : race.office.Sound)
    (apart : later.DrawsApart) (different : j ≠ i) (passes : race.Passes later i registration)
    (file : race.HasFile j registration' codes format place) :
    later.HasFile j registration' codes format place where
  claims := file.claims.passes apart different passes
  artifact := by
    rw [passes.others j different]
    exact file.artifact.of_located passes.frame.located
  put := by
    obtain ⟨content, last, there⟩ := file.put
    refine ⟨content, (passes.puts j different).trans last, ?_⟩
    refine passes.frame.read sound.vault there ?_
    rintro store path here ⟨codes', format', claims, rfl⟩
    refine file.artifact.ne_of_code_ne claims.generated ?_ here
    rintro ⟨-, sameRegistration, sameCode⟩
    subst sameRegistration
    exact claims.code_ne apart passes.draws different file.claims sameCode

theorem Orderly.passes {race later : Race ι} {i j : ι} {registration : Int}
    (sound : race.office.Sound) (apart : later.DrawsApart) (different : j ≠ i)
    (passes : race.Passes later i registration) (orderly : race.Orderly j) : later.Orderly j := by
  unfold Orderly at orderly ⊢
  rw [passes.others j different]
  cases waiting : (race.runners j).waiting with
  | nil =>
      rw [waiting] at orderly
      exact orderly
  | cons first rest =>
      rw [waiting] at orderly
      cases stage : (race.runners j).attempt.stage with
      | opening | drawing => trivial
      | producing left codes =>
          rw [stage] at orderly
          exact Claims.passes apart different passes orderly
      | filing left codes format place =>
          rw [stage] at orderly
          exact HasFile.passes sound apart different passes orderly
      | withdrawing left place =>
          rw [stage] at orderly
          obtain ⟨codes, format, file⟩ := orderly
          exact ⟨codes, format, file.passes sound apart different passes⟩
      | settled outcome =>
          rw [stage] at orderly
          exact orderly

/-- The file of a batch is gone from a vault that lets it go. -/
theorem HasFile.fileAt_delete {race : Race ι} {i : ι} {registration : Int} {codes : CodePair}
    {format : String} {place : Storage.StoredObject} (sound : race.office.Sound)
    (file : race.HasFile i registration codes format place)
    (unlocked : race.office.vault.locked = false) :
    (race.office.vault.delete place.ref.text).2.fileAt place.ref.store
      (artifactPath (race.runners i).commission.event.id registration codes.certificate format) =
        none := by
  obtain ⟨content, -, there⟩ := file.put
  obtain ⟨store, path, located, read⟩ := (Storage.Vault.read_eq_ok_iff sound.vault).1 there
  rw [file.artifact.located] at located
  cases located
  exact Storage.Vault.fileAt_delete_of_readAt sound.vault unlocked file.artifact.located read

end Race
end Batch
end Issuance
