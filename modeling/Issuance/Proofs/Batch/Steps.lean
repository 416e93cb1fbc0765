import Issuance.Batch.Attempt
import Issuance.Proofs.Office
import Issuance.Proofs.Template.Drawing
import Issuance.Proofs.Values
import Issuance.Proofs.Work
/-!
What a single step of an attempt may do. `Attempt.Moves` lists the possible steps with everything
they require and change; statements about attempts go through it, whether an attempt runs alone or
takes turns with others.
-/

namespace Issuance

def Office.calmed (office : Office) (name : String) : Office :=
  { office with disturbances := Assoc.erase name office.disturbances }

namespace Batch

/-- What may go wrong while a certificate is drawn and stored. -/
inductive ProduceFault (commission : Commission) (candidate : Candidate) (codes : CodePair)
    (office : Office) : Failure → Prop
  | late : ProduceFault commission candidate codes office
      (.error (.renderTimeout commission.renderTimeout.shortText candidate.registration.id))
  | disturbed (name : String) (failure : Failure)
      (pending : (name, Disturbance.failure failure) ∈ office.disturbances) :
      ProduceFault commission candidate codes office failure
  | undrawn (failure : Failure)
      (drawing : commission.source.draw office.vault.read office.settings.fonts
        (valuesFor commission candidate office codes) = .error failure) :
      ProduceFault commission candidate codes office failure
  | unstored (detail : String) : ProduceFault commission candidate codes office
      (.error (.storageUnavailable .artifact detail))

variable {commission : Commission} {candidate : Candidate} {codes : CodePair}

/-- What takes the place of a drawing. -/
def interruption (commission : Commission) (candidate : Candidate) :
    Option Disturbance → Option Failure
  | some .timeout => some
      (.error (.renderTimeout commission.renderTimeout.shortText candidate.registration.id))
  | some (.failure f) => some f
  | _ => none

theorem perform_disturb (values : FieldValues) {office : Office}
    (unrivalled : office.IsUnrivalled) :
    (disturb commission candidate codes values).perform office =
      (match interruption commission candidate
          (Assoc.get? ((Assoc.get? "participant_name" values).getD "") office.disturbances) with
        | some failure => .error failure
        | none => .ok (),
      office.calmed ((Assoc.get? "participant_name" values).getD "")) := by
  unfold disturb
  rw [Work.perform_bind, Work.perform_get]
  simp only
  generalize (Assoc.get? "participant_name" values).getD "" = name
  unfold Office.calmed
  cases found : Assoc.get? name office.disturbances with
  | none =>
      rw [Assoc.erase_of_get?_eq_none found]
      rfl
  | some disturbance =>
      simp only [Work.perform_bind, Work.perform_set]
      cases disturbance with
      | timeout => rfl
      | failure f => rfl
      | rival registration same serial => cases unrivalled _ (Assoc.mem_of_get? found)

/-- How a certificate is produced: what was about to happen happens, the certificate is drawn, and
it is put at its place. -/
theorem perform_produce {office : Office} (unrivalled : office.IsUnrivalled) :
    (produce commission candidate codes).perform office =
      match interruption commission candidate
          (Assoc.get? (commission.nameFor candidate.registration) office.disturbances) with
      | some failure => (.error failure, office.calmed (commission.nameFor candidate.registration))
      | none =>
        match commission.source.draw office.vault.read office.settings.fonts
            (valuesFor commission candidate office codes) with
        | .error failure => (.error failure, office.calmed (commission.nameFor candidate.registration))
        | .ok artifact =>
          match office.vault.put (Storage.keyOf (artifactPath commission.event.id
              candidate.registration.id codes.certificate artifact.format)) artifact.content with
          | (.ok stored, vault) =>
            (.ok (artifact.format, stored),
              { office.calmed (commission.nameFor candidate.registration) with vault })
          | (.error fault, vault) =>
            (.error (.error (.storageUnavailable .artifact fault.detail)),
              { office.calmed (commission.nameFor candidate.registration) with vault }) := by
  unfold produce
  rw [Work.perform_bind, Work.perform_get]
  simp only
  rw [Work.perform_bind, perform_disturb _ unrivalled, participantName_valuesFor]
  cases interruption commission candidate
      (Assoc.get? (commission.nameFor candidate.registration) office.disturbances) with
  | some failure => rfl
  | none =>
      simp only [Work.perform_bind, Work.perform_get, Work.perform_ofFailure]
      have drawing : commission.source.draw
          (office.calmed (commission.nameFor candidate.registration)).vault.read
          (office.calmed (commission.nameFor candidate.registration)).settings.fonts
          (valuesFor commission candidate office codes) =
        commission.source.draw office.vault.read office.settings.fonts
          (valuesFor commission candidate office codes) := rfl
      rw [drawing]
      cases commission.source.draw office.vault.read office.settings.fonts
          (valuesFor commission candidate office codes) with
      | error failure => rfl
      | ok artifact =>
          simp only [Work.perform_store, keyOf_artifactPath]
          have putting : (office.calmed (commission.nameFor candidate.registration)).vault =
            office.vault := rfl
          rw [putting]
          cases office.vault.put (Storage.keyOf (artifactPath commission.event.id
              candidate.registration.id codes.certificate artifact.format)) artifact.content with
          | mk result vault => cases result <;> rfl

theorem ProduceFault.of_interruption {office : Office} {failure : Failure}
    (interrupted : interruption commission candidate
      (Assoc.get? (commission.nameFor candidate.registration) office.disturbances) =
        some failure) : ProduceFault commission candidate codes office failure := by
  unfold interruption at interrupted
  split at interrupted
  · cases interrupted
    exact .late
  · next found =>
      cases interrupted
      exact .disturbed _ failure (Assoc.mem_of_get? found)
  · cases interrupted

theorem plain_of_draw {office : Office} {artifact : Artifact} {values : FieldValues}
    (generated : codes.IsGenerated)
    (drawing : commission.source.draw office.vault.read office.settings.fonts values =
      .ok artifact) (registrationId : Int) :
    Storage.IsPlainPath
      (artifactPath commission.event.id registrationId codes.certificate artifact.format) :=
  isPlainPath_artifactPath commission.event.id registrationId generated
    (TemplateSource.format_of_draw drawing ▸ commission.source.slash_not_mem_format)

/-- A certificate is drawn from the files as they stand and put at its place, or nothing is put
anywhere. -/
theorem produce_cases (commission : Commission) (candidate : Candidate) {codes : CodePair}
    (generated : codes.IsGenerated) {office : Office} (sound : office.vault.Sound)
    (unrivalled : office.IsUnrivalled) :
    ∃ disturbances, (∀ entry ∈ disturbances, entry ∈ office.disturbances) ∧
      ((∃ failure vault, (produce commission candidate codes).perform office =
            (.error failure, { office with vault, disturbances }) ∧
          ProduceFault commission candidate codes office failure ∧
          Storage.Vault.Refused office.vault vault) ∨
        ∃ artifact stored vault, (produce commission candidate codes).perform office =
            (.ok (artifact.format, stored), { office with vault, disturbances }) ∧
          commission.source.draw office.vault.read office.settings.fonts
            (valuesFor commission candidate office codes) = .ok artifact ∧
          Storage.Vault.Received office.vault vault
            (artifactPath commission.event.id candidate.registration.id codes.certificate
              artifact.format) artifact.content stored) := by
  have unchanged : Storage.Vault.Refused office.vault office.vault :=
    ⟨Storage.Vault.Frame.refl sound, rfl⟩
  refine ⟨Assoc.erase (commission.nameFor candidate.registration) office.disturbances,
    fun _ member => Assoc.mem_of_mem_erase member, ?_⟩
  rw [perform_produce unrivalled]
  split
  · next failure interrupted =>
      exact Or.inl ⟨failure, office.vault, rfl, .of_interruption interrupted, unchanged⟩
  · split
    · next failure drawing =>
        exact Or.inl ⟨failure, office.vault, rfl, .undrawn failure drawing, unchanged⟩
    · next artifact drawing =>
        rcases Storage.Vault.put_cases sound
            (plain_of_draw generated drawing candidate.registration.id) artifact.content with
          ⟨fault, vault, refusal, refused⟩ | ⟨stored, vault, done, received⟩
        · rw [refusal]
          exact Or.inl ⟨_, vault, rfl, .unstored fault.detail, refused⟩
        · rw [done]
          exact Or.inr ⟨artifact, stored, vault, rfl, drawing, received⟩

namespace Attempt

/-- The steps that an attempt can take. -/
inductive Moves (commission : Commission) (candidate : Candidate) :
    Attempt → Office → Attempt → Office → Prop
  | held (progress : Progress) (office : Office)
      (holds : office.ledger.holds commission.event.id candidate.registration.id = true) :
      Moves commission candidate ⟨.opening, progress⟩ office
        (giveUp .resolving (heldFailure commission candidate)) office
  | begun (progress : Progress) (office : Office)
      (free : office.ledger.holds commission.event.id candidate.registration.id = false) :
      Moves commission candidate ⟨.opening, progress⟩ office ⟨.drawing maxDraws, .resolving⟩ office
  | exhausted (progress : Progress) (office : Office) :
      Moves commission candidate ⟨.drawing 0, progress⟩ office
        (giveUp progress (.error (.codeSpaceExhausted maxDraws))) office
  | undrawn (left : Nat) (progress : Progress) (office : Office)
      (ended : office.codes.next = none) :
      Moves commission candidate ⟨.drawing (left + 1), progress⟩ office
        (giveUp progress (.defect .noCodesLeft)) office
  | collided (left : Nat) (progress : Progress) (office : Office) (codes : CodePair)
      (supply : CodeSupply) (drawn : office.codes.next = some (codes, supply))
      (taken : office.ledger.codesTaken codes = true) :
      Moves commission candidate ⟨.drawing (left + 1), progress⟩ office ⟨.drawing left, progress⟩
        { office with codes := supply }
  | drew (left : Nat) (progress : Progress) (office : Office) (codes : CodePair)
      (supply : CodeSupply) (drawn : office.codes.next = some (codes, supply))
      (free : office.ledger.codesTaken codes = false) :
      Moves commission candidate ⟨.drawing (left + 1), progress⟩ office
        ⟨.producing left codes, .codeAssigned⟩ { office with codes := supply }
  | failed (left : Nat) (codes : CodePair) (progress : Progress) (office : Office)
      (failure : Failure) (vault : Storage.Vault Content)
      (disturbances : List (String × Disturbance))
      (fault : ProduceFault commission candidate codes office failure)
      (refused : Storage.Vault.Refused office.vault vault)
      (fewer : ∀ entry ∈ disturbances, entry ∈ office.disturbances) :
      Moves commission candidate ⟨.producing left codes, progress⟩ office
        (giveUp progress failure) { office with vault, disturbances }
  | stored (left : Nat) (codes : CodePair) (progress : Progress) (office : Office)
      (artifact : Artifact) (place : Storage.StoredObject) (vault : Storage.Vault Content)
      (disturbances : List (String × Disturbance))
      (drawing : commission.source.draw office.vault.read office.settings.fonts
        (valuesFor commission candidate office codes) = .ok artifact)
      (received : Storage.Vault.Received office.vault vault
        (artifactPath commission.event.id candidate.registration.id codes.certificate
          artifact.format) artifact.content place)
      (fewer : ∀ entry ∈ disturbances, entry ∈ office.disturbances) :
      Moves commission candidate ⟨.producing left codes, progress⟩ office
        ⟨.filing left codes artifact.format place, .rendered⟩ { office with vault, disturbances }
  | entered (left : Nat) (codes : CodePair) (format : String) (place : Storage.StoredObject)
      (progress : Progress) (office : Office)
      (accepted : office.ledger.accepts
        (certificateRow commission candidate codes format place office) = true) :
      Moves commission candidate ⟨.filing left codes format place, progress⟩ office
        ⟨.settled (.success ⟨office.ledger.nextCertificateId, codes, place.ref.text,
          candidate.serial, place.usesFallback⟩), .persisted⟩
        { office with
          ledger := office.ledger.withEntered
            (certificateRow commission candidate codes format place office) }
  | refused (left : Nat) (codes : CodePair) (format : String) (place : Storage.StoredObject)
      (progress : Progress) (office : Office)
      (conflict : office.ledger.accepts
        (certificateRow commission candidate codes format place office) = false) :
      Moves commission candidate ⟨.filing left codes format place, progress⟩ office
        ⟨.withdrawing left place, progress⟩ office
  | lost (left : Nat) (place : Storage.StoredObject) (progress : Progress) (office : Office)
      (holds : office.ledger.holds commission.event.id candidate.registration.id = true) :
      Moves commission candidate ⟨.withdrawing left place, progress⟩ office
        (giveUp progress (heldFailure commission candidate))
        { office with vault := (office.vault.delete place.ref.text).2 }
  | resumed (left : Nat) (place : Storage.StoredObject) (progress : Progress) (office : Office)
      (free : office.ledger.holds commission.event.id candidate.registration.id = false) :
      Moves commission candidate ⟨.withdrawing left place, progress⟩ office
        ⟨.drawing left, progress⟩
        { office with vault := (office.vault.delete place.ref.text).2 }
  | rested (outcome : Outcome) (progress : Progress) (office : Office) :
      Moves commission candidate ⟨.settled outcome, progress⟩ office
        ⟨.settled outcome, progress⟩ office

/-- The codes that an attempt is about to use have the drawn form. -/
def HasCodes (attempt : Attempt) : Prop :=
  match attempt.stage with
  | .producing _ codes => codes.IsGenerated
  | .filing _ codes _ _ => codes.IsGenerated
  | _ => True

theorem moves_step (commission : Commission) (candidate : Candidate) {attempt : Attempt}
    {office : Office} (ready : attempt.HasCodes) (sound : office.vault.Sound)
    (unrivalled : office.IsUnrivalled) :
    Moves commission candidate attempt office (attempt.step commission candidate office).1
      (attempt.step commission candidate office).2 := by
  obtain ⟨stage, progress⟩ := attempt
  cases stage with
  | opening =>
      simp only [step, opened]
      split
      · next holds => exact .held progress office holds
      · next free => exact .begun progress office (eq_false_of_ne_true free)
  | drawing left =>
      cases left with
      | zero => exact .exhausted progress office
      | succ left =>
          simp only [step, drawn]
          cases next : office.codes.next with
          | none =>
              have drawing : drawCodes.run.run office = _ := perform_drawCodes_of_none next
              rw [drawing]
              exact .undrawn left progress office next
          | some pair =>
              obtain ⟨codes, supply⟩ := pair
              have drawing : drawCodes.run.run office = _ := perform_drawCodes_of_some next
              rw [drawing]
              simp only
              split
              · next taken => exact .collided left progress office codes supply next taken
              · next free =>
                  exact .drew left progress office codes supply next (eq_false_of_ne_true free)
  | producing left codes =>
      obtain ⟨disturbances, fewer, outcome⟩ :=
        produce_cases commission candidate ready sound unrivalled
      simp only [Work.perform] at outcome
      simp only [step, produced]
      rcases outcome with ⟨failure, vault, done, fault, refused⟩ |
        ⟨artifact, place, vault, done, drawing, received⟩
      · rw [done]
        exact .failed left codes progress office failure vault disturbances fault refused fewer
      · rw [done]
        exact .stored left codes progress office artifact place vault disturbances drawing received
          fewer
  | filing left codes format place =>
      simp only [step, filed]
      cases accepted : office.ledger.accepts
          (certificateRow commission candidate codes format place office) with
      | true =>
          rw [Ledger.enter?_of_accepts accepted]
          exact .entered left codes format place progress office accepted
      | false =>
          rw [Ledger.enter?_of_not_accepts accepted]
          exact .refused left codes format place progress office accepted
  | withdrawing left place =>
      have removal : ((Work.discard place.ref.text).run.run office).2 =
          { office with vault := (office.vault.delete place.ref.text).2 } :=
        congrArg Prod.snd (Work.perform_discard place.ref.text office)
      simp only [step, withdrawn]
      rw [removal]
      simp only
      split
      · next holds => exact .lost left place progress office holds
      · next free => exact .resumed left place progress office (eq_false_of_ne_true free)
  | settled outcome => exact .rested outcome progress office

end Attempt
end Batch
end Issuance
