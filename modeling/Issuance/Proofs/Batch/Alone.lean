import Issuance.Proofs.Batch.Steps
/-!
An attempt that runs alone. Nobody enters a certificate between its questions and its entry, so the
ledger takes the entry; and whatever ends the attempt earlier ends it before a file is stored.
-/

namespace Issuance
namespace Batch

/-- Why an attempt that runs alone ends without a certificate. -/
inductive SetbackCause (commission : Commission) (candidate : Candidate) (office : Office) :
    Failure → Progress → Prop
  | held (holds : office.ledger.holds commission.event.id candidate.registration.id = true) :
      SetbackCause commission candidate office (Attempt.heldFailure commission candidate) .resolving
  | exhausted : SetbackCause commission candidate office
      (.error (.codeSpaceExhausted maxDraws)) .resolving
  | undrawn : SetbackCause commission candidate office (.defect .noCodesLeft) .resolving
  | unproduced (codes : CodePair) (failure : Failure)
      (fault : ProduceFault commission candidate codes office failure) :
      SetbackCause commission candidate office failure .codeAssigned

/-- What a whole attempt that runs alone comes to: a certificate in the ledger with its file in
the vault, or a setback that leaves both as they were. -/
inductive Completed (commission : Commission) (candidate : Candidate) (office : Office) :
    Outcome → Office → Prop
  | issued (codes : CodePair) (artifact : Artifact) (place : Storage.StoredObject)
      (supply : CodeSupply) (vault : Storage.Vault Content)
      (disturbances : List (String × Disturbance)) (generated : codes.IsGenerated)
      (free : office.ledger.holds commission.event.id candidate.registration.id = false)
      (fresh : office.ledger.codesTaken codes = false)
      (drawing : commission.source.draw office.vault.read office.settings.fonts
        (valuesFor commission candidate office codes) = .ok artifact)
      (received : Storage.Vault.Received office.vault vault
        (artifactPath commission.event.id candidate.registration.id codes.certificate
          artifact.format) artifact.content place)
      (fewer : ∀ entry ∈ disturbances, entry ∈ office.disturbances)
      (supplied : supply.IsGenerated) :
      Completed commission candidate office
        (.success ⟨office.ledger.nextCertificateId, codes, place.ref.text, candidate.serial,
          place.usesFallback⟩)
        { office with
          codes := supply, vault, disturbances
          ledger := office.ledger.withEntered
            (certificateRow commission candidate codes artifact.format place office) }
  | setback (failure : Failure) (progress : Progress) (supply : CodeSupply)
      (vault : Storage.Vault Content) (disturbances : List (String × Disturbance))
      (cause : SetbackCause commission candidate office failure progress)
      (refused : Storage.Vault.Refused office.vault vault)
      (fewer : ∀ entry ∈ disturbances, entry ∈ office.disturbances)
      (supplied : supply.IsGenerated) :
      Completed commission candidate office (.setback ⟨failure, progress⟩)
        { office with codes := supply, vault, disturbances }

/-- The file of a certificate that was drawn and put at its place. -/
theorem isArtifactRef_of_received {commission : Commission} {candidate : Candidate}
    {codes : CodePair} {office : Office} {artifact : Artifact} {place : Storage.StoredObject}
    {vault : Storage.Vault Content} (sound : office.vault.Sound) (generated : codes.IsGenerated)
    (drawing : commission.source.draw office.vault.read office.settings.fonts
      (valuesFor commission candidate office codes) = .ok artifact)
    (received : Storage.Vault.Received office.vault vault
      (artifactPath commission.event.id candidate.registration.id codes.certificate
        artifact.format) artifact.content place) :
    IsArtifactRef vault commission.event.id candidate.registration.id codes place.ref.text
      place.ref.store artifact.format := by
  have noSlash : '/' ∉ artifact.format.toList :=
    TemplateSource.format_of_draw drawing ▸ commission.source.slash_not_mem_format
  have plain := isPlainPath_artifactPath commission.event.id candidate.registration.id generated
    noSlash
  exact ⟨generated, noSlash, received.text,
    (received.frame.located _).trans (received.location? sound plain)⟩

theorem Completed.sound {commission : Commission} {candidate : Candidate} {office later : Office}
    {outcome : Outcome} (sound : office.Sound)
    (completed : Completed commission candidate office outcome later) : later.Sound := by
  cases completed with
  | issued codes artifact place supply vault disturbances generated free fresh drawing received
      fewer supplied =>
      have accepted : office.ledger.accepts
          (certificateRow commission candidate codes artifact.format place office) = true :=
        Ledger.accepts_iff.2 ⟨free, fresh⟩
      refine ⟨received.frame.sound, sound.ledger.withEntered accepted, supplied,
        fun entry member => sound.unrivalled entry (fewer entry member), ?_⟩
      intro c member
      rcases List.mem_append.1 member with older | last
      · exact (sound.kept c older).of_located received.frame.located
      · rw [List.mem_singleton.1 last]
        exact ⟨place.ref.store, artifact.format,
          isArtifactRef_of_received sound.vault generated drawing received⟩
  | setback failure progress supply vault disturbances cause refused fewer supplied =>
      exact sound.of_issues_eq refused.frame.sound refused.frame.located rfl supplied
        (fun entry member => sound.unrivalled entry (fewer entry member))

namespace Attempt

/-- How far an attempt has come that began in an office and has run alone since. -/
inductive Alone (commission : Commission) (candidate : Candidate) (office : Office) :
    Attempt → Office → Prop
  | opening : Alone commission candidate office start office
  | drawing (left : Nat) (supply : CodeSupply) (supplied : supply.IsGenerated)
      (free : office.ledger.holds commission.event.id candidate.registration.id = false) :
      Alone commission candidate office ⟨.drawing left, .resolving⟩
        { office with codes := supply }
  | producing (left : Nat) (codes : CodePair) (supply : CodeSupply)
      (generated : codes.IsGenerated) (supplied : supply.IsGenerated)
      (free : office.ledger.holds commission.event.id candidate.registration.id = false)
      (fresh : office.ledger.codesTaken codes = false) :
      Alone commission candidate office ⟨.producing left codes, .codeAssigned⟩
        { office with codes := supply }
  | filing (left : Nat) (codes : CodePair) (artifact : Artifact) (place : Storage.StoredObject)
      (supply : CodeSupply) (vault : Storage.Vault Content)
      (disturbances : List (String × Disturbance)) (generated : codes.IsGenerated)
      (free : office.ledger.holds commission.event.id candidate.registration.id = false)
      (fresh : office.ledger.codesTaken codes = false)
      (drawing : commission.source.draw office.vault.read office.settings.fonts
        (valuesFor commission candidate office codes) = .ok artifact)
      (received : Storage.Vault.Received office.vault vault
        (artifactPath commission.event.id candidate.registration.id codes.certificate
          artifact.format) artifact.content place)
      (fewer : ∀ entry ∈ disturbances, entry ∈ office.disturbances)
      (supplied : supply.IsGenerated) :
      Alone commission candidate office ⟨.filing left codes artifact.format place, .rendered⟩
        { office with codes := supply, vault, disturbances }
  | settled (outcome : Outcome) (progress : Progress) (later : Office)
      (completed : Completed commission candidate office outcome later) :
      Alone commission candidate office ⟨.settled outcome, progress⟩ later

variable {commission : Commission} {candidate : Candidate} {office : Office}

theorem Alone.hasCodes {attempt : Attempt} {later : Office}
    (alone : Alone commission candidate office attempt later) : attempt.HasCodes := by
  cases alone with
  | producing left codes supply generated => exact generated
  | filing left codes artifact place supply vault disturbances generated => exact generated
  | opening | drawing | settled => trivial

theorem Alone.surroundings (sound : office.Sound) {attempt : Attempt} {later : Office}
    (alone : Alone commission candidate office attempt later) :
    later.vault.Sound ∧ later.IsUnrivalled := by
  cases alone with
  | opening | drawing | producing => exact ⟨sound.vault, sound.unrivalled⟩
  | filing left codes artifact place supply vault disturbances generated free fresh drawing
      received fewer supplied =>
      exact ⟨received.frame.sound, fun entry member => sound.unrivalled entry (fewer entry member)⟩
  | settled outcome progress later completed =>
      have after := completed.sound sound
      exact ⟨after.vault, after.unrivalled⟩

theorem Alone.moves (sound : office.Sound) {attempt next : Attempt} {later after : Office}
    (alone : Alone commission candidate office attempt later)
    (moves : Moves commission candidate attempt later next after) :
    Alone commission candidate office next after := by
  have unchanged : Storage.Vault.Refused office.vault office.vault :=
    ⟨Storage.Vault.Frame.refl sound.vault, rfl⟩
  cases alone with
  | opening =>
      cases moves with
      | held progress office holds =>
          exact .settled _ _ _ (.setback _ _ office.codes office.vault office.disturbances
            (.held holds) unchanged (fun _ member => member) sound.codes)
      | begun progress office free => exact .drawing maxDraws office.codes sound.codes free
  | drawing left supply supplied free =>
      cases moves with
      | exhausted =>
          exact .settled _ _ _ (.setback _ _ supply office.vault office.disturbances
            .exhausted unchanged (fun _ member => member) supplied)
      | undrawn =>
          exact .settled _ _ _ (.setback _ _ supply office.vault office.disturbances
            .undrawn unchanged (fun _ member => member) supplied)
      | collided left progress office codes rest drawn taken =>
          have generated := CodeSupply.isGenerated_of_next supplied drawn
          exact .drawing left rest generated.2 free
      | drew left progress office codes rest drawn fresh =>
          have generated := CodeSupply.isGenerated_of_next supplied drawn
          exact .producing left codes rest generated.1 generated.2 free fresh
  | producing left codes supply generated supplied free fresh =>
      cases moves with
      | failed left codes progress office failure vault disturbances fault refused fewer =>
          have same : ProduceFault commission candidate codes office failure := by
            cases fault with
            | late => exact .late
            | disturbed name failure pending => exact .disturbed name failure pending
            | undrawn failure drawing => exact .undrawn failure drawing
            | unstored detail => exact .unstored detail
          exact .settled _ _ _ (.setback failure _ supply vault disturbances
            (.unproduced codes failure same) refused fewer supplied)
      | stored left codes progress office artifact place vault disturbances drawing received fewer =>
          exact .filing left codes artifact place supply vault disturbances generated free fresh
            drawing received fewer supplied
  | filing left codes artifact place supply vault disturbances generated free fresh drawing
      received fewer supplied =>
      cases moves with
      | entered =>
          exact .settled _ _ _ (.issued codes artifact place supply vault disturbances generated
            free fresh drawing received fewer supplied)
      | refused left codes format place progress office conflict =>
          have accepted : office.ledger.accepts
              (certificateRow commission candidate codes artifact.format place office) = true :=
            Ledger.accepts_iff.2 ⟨free, fresh⟩
          exact absurd accepted (ne_true_of_eq_false conflict)
  | settled outcome progress later completed =>
      cases moves with
      | rested => exact .settled outcome progress later completed

theorem Alone.steps (sound : office.Sound) (count : Nat) {attempt : Attempt} {later : Office}
    (alone : Alone commission candidate office attempt later) :
    Alone commission candidate office (Attempt.steps commission candidate count attempt later).1
      (Attempt.steps commission candidate count attempt later).2 := by
  induction count generalizing attempt later with
  | zero => exact alone
  | succ count ih =>
      obtain ⟨vault, unrivalled⟩ := alone.surroundings sound
      have moved := alone.moves sound
        (moves_step commission candidate alone.hasCodes vault unrivalled)
      rw [Attempt.steps]
      exact ih moved

/-- The commit of an attempt that runs alone is never refused. -/
theorem Alone.not_withdrawing {attempt : Attempt} {later : Office}
    (alone : Alone commission candidate office attempt later) (left : Nat)
    (place : Storage.StoredObject) : attempt.stage ≠ .withdrawing left place := by
  intro withdrawing
  cases alone with
  | opening | drawing | producing | filing | settled => cases withdrawing

theorem completed_complete (sound : office.Sound) :
    Completed commission candidate office (complete commission candidate office).1
      (complete commission candidate office).2 := by
  have alone : Alone commission candidate office
      (steps commission candidate (stepsLeft .opening) start office).1
      (steps commission candidate (stepsLeft .opening) start office).2 :=
    Alone.steps sound (stepsLeft .opening) .opening
  have done := isSettled_steps commission candidate (stepsLeft .opening) start office
    (Nat.le_refl _)
  unfold complete
  generalize steps commission candidate (stepsLeft .opening) start office = reached at alone done
  obtain ⟨attempt, later⟩ := reached
  cases alone with
  | settled outcome progress later completed => exact completed
  | opening | drawing | producing | filing => cases done

end Attempt
end Batch
end Issuance
