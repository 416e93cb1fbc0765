import Mathlib.Data.List.Basic
import Issuance.Proofs.Batch.Alone
import Issuance.Proofs.Race.Runners
/-!
What a single step of a race may do, with everything that it leaves on record.
-/

namespace Issuance
namespace Batch
namespace Race

variable {ι : Type} [DecidableEq ι]

/-- The steps that batch `i` can take for a participant. -/
inductive Goes (race : Race ι) (i : ι) (registration : Registration) (rest : List Registration) :
    Race ι → Prop
  | ahead (left : Nat) (progress : Progress) (supply : CodeSupply)
      (supplied : supply.IsGenerated)
      (idle : ∀ ref, (race.runners i).attempt.fileRef? ≠ some ref) :
      Goes race i registration rest { race with
        office := { race.office with codes := supply }
        runners := Function.update race.runners i
          ((race.runners i).proceed ⟨.drawing left, progress⟩) }
  | drew (left : Nat) (codes : CodePair) (supply : CodeSupply) (supplied : supply.IsGenerated)
      (idle : ∀ ref, (race.runners i).attempt.fileRef? ≠ some ref)
      (generated : codes.IsGenerated) (free : race.office.ledger.codesTaken codes = false) :
      Goes race i registration rest { race with
        office := { race.office with codes := supply }
        runners := Function.update race.runners i
          ((race.runners i).proceed ⟨.producing left codes, .codeAssigned⟩)
        draws := race.draws ++ [(i, registration.id, codes.certificate)] }
  | ended (setback : Setback) (vault : Storage.Vault Content)
      (disturbances : List (String × Disturbance))
      (idle : ∀ ref, (race.runners i).attempt.fileRef? ≠ some ref)
      (refused : Storage.Vault.Refused race.office.vault vault)
      (fewer : ∀ entry ∈ disturbances, entry ∈ race.office.disturbances) :
      Goes race i registration rest { race with
        office := { race.office with vault, disturbances }
        runners := Function.update race.runners i
          ((race.runners i).report registration rest (.setback setback)) }
  | stored (left : Nat) (codes : CodePair) (artifact : Artifact) (place : Storage.StoredObject)
      (vault : Storage.Vault Content) (disturbances : List (String × Disturbance))
      (stage : (race.runners i).attempt.stage = .producing left codes)
      (drawing : (race.runners i).commission.source.draw race.office.vault.read
        race.office.settings.fonts (valuesFor (race.runners i).commission
          ⟨registration, (race.runners i).serial⟩ race.office codes) = .ok artifact)
      (received : Storage.Vault.Received race.office.vault vault
        (artifactPath (race.runners i).commission.event.id registration.id codes.certificate
          artifact.format) artifact.content place)
      (fewer : ∀ entry ∈ disturbances, entry ∈ race.office.disturbances) :
      Goes race i registration rest { race with
        office := { race.office with vault, disturbances }
        runners := Function.update race.runners i
          ((race.runners i).proceed ⟨.filing left codes artifact.format place, .rendered⟩)
        puts := (i, place.ref.text, artifact.content) :: race.puts }
  | filed (left : Nat) (codes : CodePair) (format : String) (place : Storage.StoredObject)
      (stage : (race.runners i).attempt.stage = .filing left codes format place)
      (accepted : race.office.ledger.accepts (certificateRow (race.runners i).commission
        ⟨registration, (race.runners i).serial⟩ codes format place race.office) = true) :
      Goes race i registration rest { race with
        office := { race.office with
          ledger := race.office.ledger.withEntered (certificateRow (race.runners i).commission
            ⟨registration, (race.runners i).serial⟩ codes format place race.office) }
        runners := Function.update race.runners i
          ((race.runners i).report registration rest (.success
            ⟨race.office.ledger.nextCertificateId, codes, place.ref.text, (race.runners i).serial,
              place.usesFallback⟩))
        filed := race.filed ++ ((Assoc.get? i race.puts).map fun file =>
          (race.office.ledger.entered (certificateRow (race.runners i).commission
            ⟨registration, (race.runners i).serial⟩ codes format place race.office), file.2)).toList }
  | refused (left : Nat) (codes : CodePair) (format : String) (place : Storage.StoredObject)
      (progress : Progress)
      (stage : (race.runners i).attempt.stage = .filing left codes format place) :
      Goes race i registration rest { race with
        runners := Function.update race.runners i
          ((race.runners i).proceed ⟨.withdrawing left place, progress⟩) }
  | lost (left : Nat) (place : Storage.StoredObject) (setback : Setback)
      (stage : (race.runners i).attempt.stage = .withdrawing left place) :
      Goes race i registration rest { race with
        office := { race.office with vault := (race.office.vault.delete place.ref.text).2 }
        runners := Function.update race.runners i
          ((race.runners i).report registration rest (.setback setback)) }
  | resumed (left : Nat) (place : Storage.StoredObject) (progress : Progress)
      (stage : (race.runners i).attempt.stage = .withdrawing left place) :
      Goes race i registration rest { race with
        office := { race.office with vault := (race.office.vault.delete place.ref.text).2 }
        runners := Function.update race.runners i
          ((race.runners i).proceed ⟨.drawing left, progress⟩) }

theorem entered_of_eq {before after : Office}
    (same : after.ledger.certificates = before.ledger.certificates) : entered before after = [] := by
  unfold entered
  rw [same]
  exact List.drop_length

theorem step_of_nil {race : Race ι} {i : ι} (none : (race.runners i).waiting = []) :
    race.step i = race := by
  have nothing : entered race.office race.office = [] := entered_of_eq rfl
  simp only [step, Runner.step, none, Function.update_eq_self, drawn, put, List.map_nil,
    List.append_nil, List.nil_append, nothing, List.filterMap_nil]

theorem step_of_cons {race : Race ι} {i : ι} {registration : Registration}
    {rest : List Registration} (waiting : (race.runners i).waiting = registration :: rest)
    {next : Attempt} {later : Office}
    (moved : (race.runners i).attempt.step (race.runners i).commission
      ⟨registration, (race.runners i).serial⟩ race.office = (next, later)) :
    race.step i =
      { office := later
        runners := Function.update race.runners i ((race.runners i).follow registration rest next)
        draws := race.draws ++
          (drawn (race.runners i) ((race.runners i).follow registration rest next)).map
            fun draw => (i, draw)
        puts := (put (race.runners i) race.office
          ((race.runners i).follow registration rest next)).map (fun file => (i, file)) ++ race.puts
        filed := race.filed ++ (entered race.office later).filterMap fun row =>
          (Assoc.get? i race.puts).map fun file => (row, file.2) } := by
  simp only [step, Runner.step, waiting, moved]

theorem drawn_report (runner before : Runner) (registration : Registration)
    (rest : List Registration) (outcome : Outcome) :
    drawn before (runner.report registration rest outcome) = [] := by
  unfold drawn
  cases before.waiting <;> rfl

theorem put_report (runner before : Runner) (office : Office) (registration : Registration)
    (rest : List Registration) (outcome : Outcome) :
    put before office (runner.report registration rest outcome) = [] := by
  unfold put
  cases before.waiting with
  | nil => rfl
  | cons first others => cases before.attempt.stage <;> rfl

/-- A step at which an attempt ends without a certificate leaves nothing on record. -/
theorem step_of_setback {race : Race ι} {i : ι} {registration : Registration}
    {rest : List Registration} (waiting : (race.runners i).waiting = registration :: rest)
    {progress : Progress} {failure : Failure} {later : Office}
    (moved : (race.runners i).attempt.step (race.runners i).commission
      ⟨registration, (race.runners i).serial⟩ race.office = (Attempt.giveUp progress failure, later))
    (same : later.ledger.certificates = race.office.ledger.certificates) :
    race.step i = { race with
      office := later
      runners := Function.update race.runners i
        ((race.runners i).report registration rest (.setback ⟨failure, progress⟩)) } := by
  have nothing := entered_of_eq same
  rw [step_of_cons waiting moved]
  simp only [Attempt.giveUp, Runner.follow, drawn_report, put_report, nothing, List.map_nil,
    List.append_nil, List.nil_append, List.filterMap_nil]

/-- A step after which an attempt is about to draw codes or to withdraw a file leaves nothing on
record. -/
theorem step_of_quiet {race : Race ι} {i : ι} {registration : Registration}
    {rest : List Registration} (waiting : (race.runners i).waiting = registration :: rest)
    {next : Attempt} {later : Office}
    (moved : (race.runners i).attempt.step (race.runners i).commission
      ⟨registration, (race.runners i).serial⟩ race.office = (next, later))
    (quiet : (∃ left, next.stage = .drawing left) ∨ ∃ left place, next.stage = .withdrawing left place)
    (same : later.ledger.certificates = race.office.ledger.certificates) :
    race.step i = { race with
      office := later
      runners := Function.update race.runners i ((race.runners i).proceed next) } := by
  have nothing := entered_of_eq same
  rw [step_of_cons waiting moved]
  obtain ⟨stage, progress⟩ := next
  rcases quiet with ⟨left, rfl⟩ | ⟨left, place, rfl⟩
  · simp only [Runner.follow, drawn, put, Runner.attempt_proceed, waiting, nothing, List.map_nil,
      List.append_nil, List.filterMap_nil]
    cases (race.runners i).attempt.stage <;> rfl
  · simp only [Runner.follow, drawn, put, Runner.attempt_proceed, waiting, nothing, List.map_nil,
      List.append_nil, List.filterMap_nil]
    cases (race.runners i).attempt.stage <;> rfl

theorem goes_step {race : Race ι} {i : ι} {registration : Registration} {rest : List Registration}
    (sound : race.office.Sound) (waiting : (race.runners i).waiting = registration :: rest)
    (ready : (race.runners i).attempt.HasCodes)
    (unsettled : (race.runners i).attempt.isSettled = false) :
    race.Goes i registration rest (race.step i) := by
  have moves := Attempt.moves_step (race.runners i).commission
    ⟨registration, (race.runners i).serial⟩ ready sound.vault sound.unrivalled
  have unchanged : Storage.Vault.Refused race.office.vault race.office.vault :=
    ⟨Storage.Vault.Frame.refl sound.vault, rfl⟩
  generalize moved : (race.runners i).attempt.step (race.runners i).commission
    ⟨registration, (race.runners i).serial⟩ race.office = after at moves
  obtain ⟨next, later⟩ := after
  generalize begun : (race.runners i).attempt = attempt at moves unsettled ready
  -- with the stage of the attempt known, so is what the step leaves on record
  have idle : attempt.fileRef? = none →
      ∀ ref, (race.runners i).attempt.fileRef? ≠ some ref := by
    intro without ref there
    rw [begun, without] at there
    cases there
  cases moves with
  | held progress office holds =>
      rw [step_of_setback waiting moved rfl]
      exact .ended _ race.office.vault race.office.disturbances (idle rfl) unchanged
        (fun _ member => member)
  | begun progress office free =>
      rw [step_of_quiet waiting moved (Or.inl ⟨_, rfl⟩) rfl]
      exact .ahead _ _ race.office.codes sound.codes (idle rfl)
  | exhausted progress office =>
      rw [step_of_setback waiting moved rfl]
      exact .ended _ race.office.vault race.office.disturbances (idle rfl) unchanged
        (fun _ member => member)
  | undrawn left progress office ended =>
      rw [step_of_setback waiting moved rfl]
      exact .ended _ race.office.vault race.office.disturbances (idle rfl) unchanged
        (fun _ member => member)
  | collided left progress office codes supply draw taken =>
      have generated := CodeSupply.isGenerated_of_next sound.codes draw
      rw [step_of_quiet waiting moved (Or.inl ⟨_, rfl⟩) rfl]
      exact .ahead _ _ supply generated.2 (idle rfl)
  | drew left progress office codes supply draw free =>
      have generated := CodeSupply.isGenerated_of_next sound.codes draw
      have same : entered race.office { race.office with codes := supply } = [] := entered_of_eq rfl
      rw [step_of_cons waiting moved]
      simp only [Runner.follow, drawn, put, Runner.attempt_proceed, waiting, begun, same,
        List.map_nil, List.map_cons, List.append_nil, List.nil_append, List.filterMap_nil]
      exact .drew left codes supply generated.2 (idle rfl) generated.1 free
  | failed left codes progress office failure vault disturbances fault refused fewer =>
      rw [step_of_setback waiting moved rfl]
      exact .ended _ vault disturbances (idle rfl) refused fewer
  | stored left codes progress office artifact place vault disturbances drawing received fewer =>
      have same : entered race.office { race.office with vault, disturbances } = [] :=
        entered_of_eq rfl
      rw [step_of_cons waiting moved]
      simp only [Runner.follow, drawn, put, Runner.attempt_proceed, waiting, begun, drawing, same,
        List.map_nil, List.map_cons, List.append_nil, List.singleton_append, List.filterMap_nil]
      exact .stored left codes artifact place vault disturbances (congrArg Attempt.stage begun)
        drawing received fewer
  | entered left codes format place progress office accepted =>
      have added : entered race.office { race.office with
          ledger := race.office.ledger.withEntered (certificateRow (race.runners i).commission
            ⟨registration, (race.runners i).serial⟩ codes format place race.office) } =
          [race.office.ledger.entered (certificateRow (race.runners i).commission
            ⟨registration, (race.runners i).serial⟩ codes format place race.office)] :=
        List.drop_left
      rw [step_of_cons waiting moved]
      simp only [Runner.follow, drawn_report, put_report, added, List.map_nil, List.append_nil,
        List.nil_append]
      have filed := @Goes.filed ι _ race i registration rest left codes format place
        (congrArg Attempt.stage begun) accepted
      cases last : Assoc.get? i race.puts with
      | none =>
          rw [last] at filed
          exact filed
      | some file =>
          rw [last] at filed
          exact filed
  | refused left codes format place progress office conflict =>
      rw [step_of_quiet waiting moved (Or.inr ⟨_, _, rfl⟩) rfl]
      exact .refused left codes format place progress (congrArg Attempt.stage begun)
  | lost left place progress office holds =>
      rw [step_of_setback waiting moved rfl]
      exact .lost left place _ (congrArg Attempt.stage begun)
  | resumed left place progress office free =>
      rw [step_of_quiet waiting moved (Or.inl ⟨_, rfl⟩) rfl]
      exact .resumed left place progress (congrArg Attempt.stage begun)
  | rested outcome progress office => cases unsettled

end Race
end Batch
end Issuance
