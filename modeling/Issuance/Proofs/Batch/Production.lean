import Issuance.Proofs.Batch.Alone
import Issuance.Proofs.Storage.Filling
/-!
What an attempt depends on. A certificate is drawn from the participant's own data, the settings,
the clock and the files of the template, and it is put where certificates of others are not in the
way; so an attempt comes to the same in two offices that are alike in these.
-/

namespace Issuance
namespace Batch

variable {commission : Commission} {candidate : Candidate} {codes : CodePair}

/-- The folder of all certificates, and how many names deep its files are. -/
def artifactTop : String := "certificates"

def artifactDepth : Nat := 4

theorem isSlot_artifactPath (eventId registrationId : Int) (code format : String) :
    Storage.IsSlot artifactTop artifactDepth (artifactPath eventId registrationId code format) :=
  ⟨rfl, rfl⟩

/-- The vault has at most been given certificates. -/
def HasOnlyIssued (a b : Storage.Vault Content) : Prop :=
  a.Fills artifactTop artifactDepth b

theorem after_produce (generated : codes.IsGenerated) {office : Office}
    (unrivalled : office.IsUnrivalled) :
    ∃ vault, (produce commission candidate codes).after office =
        { office.calmed (commission.nameFor candidate.registration) with vault } ∧
      HasOnlyIssued office.vault vault := by
  rw [Work.after, perform_produce unrivalled]
  split
  · exact ⟨office.vault, rfl, Storage.Vault.Fills.refl _⟩
  · split
    · exact ⟨office.vault, rfl, Storage.Vault.Fills.refl _⟩
    · next artifact drawing =>
        have fills := Storage.Vault.fills_put office.vault
          (plain_of_draw generated drawing candidate.registration.id)
          (isSlot_artifactPath _ _ _ _) artifact.content
        split
        · next stored vault putting =>
            rw [putting] at fills
            exact ⟨vault, rfl, fills⟩
        · next fault vault putting =>
            rw [putting] at fills
            exact ⟨vault, rfl, fills⟩

/-- Two offices that make no difference to the certificate of a participant: the second one may have
issued certificates to others, and let happen what was about to happen to them. -/
structure Alike (commission : Commission) (registration : Registration) (a b : Office) : Prop where
  settings : b.settings = a.settings
  clock : b.clock = a.clock
  attendance : b.ledger.attendance? registration.id = a.ledger.attendance? registration.id
  disturbance : Assoc.get? (commission.nameFor registration) b.disturbances =
    Assoc.get? (commission.nameFor registration) a.disturbances
  vault : HasOnlyIssued a.vault b.vault
  reads : ∀ ref ∈ commission.source.refs, (b.vault.read ref).toOption = (a.vault.read ref).toOption
  unrivalled : a.IsUnrivalled ∧ b.IsUnrivalled

namespace Alike

variable {a b : Office} (alike : Alike commission candidate.registration a b)

include alike

theorem valuesFor_eq : valuesFor commission candidate b codes = valuesFor commission candidate a codes := by
  unfold valuesFor
  rw [alike.attendance, alike.clock]

theorem draw_eq :
    commission.source.draw b.vault.read b.settings.fonts (valuesFor commission candidate b codes) =
      commission.source.draw a.vault.read a.settings.fonts
        (valuesFor commission candidate a codes) := by
  rw [alike.valuesFor_eq, alike.settings, TemplateSource.draw_congr alike.reads]

theorem produce_eq (generated : codes.IsGenerated) :
    ((produce commission candidate codes).perform b).1 =
      ((produce commission candidate codes).perform a).1 := by
  rw [perform_produce alike.unrivalled.2, perform_produce alike.unrivalled.1, alike.disturbance,
    alike.draw_eq]
  split
  · rfl
  · split
    · rfl
    · next artifact drawing =>
        have putting := alike.vault.fst_put
          (plain_of_draw generated drawing candidate.registration.id)
          (isSlot_artifactPath _ _ _ _) artifact.content
        generalize b.vault.put (Storage.keyOf (artifactPath commission.event.id
          candidate.registration.id codes.certificate artifact.format)) artifact.content = second
          at putting ⊢
        generalize a.vault.put (Storage.keyOf (artifactPath commission.event.id
          candidate.registration.id codes.certificate artifact.format)) artifact.content = first
          at putting ⊢
        obtain ⟨result, vault⟩ := first
        obtain ⟨result', vault'⟩ := second
        have equal : result' = result := putting
        subst equal
        cases result' <;> rfl

end Alike

theorem Alike.withCodes {registration : Registration} {a b : Office}
    (alike : Alike commission registration a b) (first second : CodeSupply) :
    Alike commission registration { a with codes := first } { b with codes := second } :=
  ⟨alike.settings, alike.clock, alike.attendance, alike.disturbance, alike.vault, alike.reads,
    alike.unrivalled⟩

namespace Attempt

theorem complete_of_held {office : Office}
    (held : office.ledger.holds commission.event.id candidate.registration.id = true) :
    complete commission candidate office =
      (.setback ⟨heldFailure commission candidate, .resolving⟩, office) := by
  have opening : step commission candidate start office =
      (giveUp .resolving (heldFailure commission candidate), office) := by
    simp only [step, start, opened, held, if_true]
  obtain ⟨more, count⟩ : ∃ more, stepsLeft .opening = more + 1 := ⟨21, rfl⟩
  unfold complete
  simp only [count, steps, opening]
  rw [steps_of_isSettled commission candidate more _ _ rfl]
  rfl

/-- An attempt that draws unused codes is what comes of producing the certificate. -/
theorem complete_of_free {office : Office} {supply : CodeSupply}
    (free : office.ledger.holds commission.event.id candidate.registration.id = false)
    (drawn : office.codes.next = some (codes, supply))
    (fresh : office.ledger.codesTaken codes = false) (generated : codes.IsGenerated)
    (unrivalled : office.IsUnrivalled) :
    complete commission candidate office =
      match (produce commission candidate codes).perform { office with codes := supply } with
      | (.error failure, later) => (.setback ⟨failure, .codeAssigned⟩, later)
      | (.ok (format, stored), later) =>
        (.success ⟨office.ledger.nextCertificateId, codes, stored.ref.text, candidate.serial,
            stored.usesFallback⟩,
          { later with
            ledger := office.ledger.withEntered
              (certificateRow commission candidate codes format stored later) }) := by
  have opening : step commission candidate start office =
      (⟨.drawing (4 + 1), .resolving⟩, office) := by
    simp only [step, start, opened, free, Bool.false_eq_true, if_false]
    rfl
  have drawing : step commission candidate ⟨.drawing (4 + 1), .resolving⟩ office =
      (⟨.producing 4 codes, .codeAssigned⟩, { office with codes := supply }) := by
    have performed : drawCodes.run.run office = _ := perform_drawCodes_of_some drawn
    simp only [step, Attempt.drawn, performed, fresh, Bool.false_eq_true, if_false]
  obtain ⟨more, count⟩ : ∃ more, stepsLeft .opening = more + 1 + 1 + 1 + 1 := ⟨18, rfl⟩
  obtain ⟨vault, reached, -⟩ := @after_produce commission candidate codes generated
    { office with codes := supply } unrivalled
  unfold complete
  simp only [count, steps, opening, drawing]
  simp only [step, produced]
  unfold Work.after Work.perform at reached
  unfold Work.perform
  cases performed : (produce commission candidate codes).run.run { office with codes := supply } with
  | mk result later =>
      rw [performed] at reached
      have between : later = _ := reached
      cases result with
      | error failure =>
          simp only [giveUp, outcome]
          rw [steps_of_isSettled commission candidate more _ _ rfl]
      | ok made =>
          obtain ⟨format, stored⟩ := made
          have accepted : later.ledger.accepts
              (certificateRow commission candidate codes format stored later) = true := by
            rw [between]
            exact Ledger.accepts_iff.2 ⟨free, fresh⟩
          have same : later.ledger = office.ledger := by rw [between]; rfl
          simp only [filed, Ledger.enter?_of_accepts accepted]
          rw [steps_of_isSettled commission candidate more _ _ rfl]
          rw [same]
          rfl

end Attempt

/-- An outcome without the id that the ledger gave to the certificate. -/
def Outcome.unnumbered : Outcome → Outcome
  | .success s => .success { s with certificateId := 0 }
  | .setback s => .setback s

/-- In offices that are alike, an attempt with the same codes comes to the same. -/
theorem Alike.unnumbered_complete {a b : Office} {first second : CodeSupply}
    (alike : Alike commission candidate.registration a b) (generated : codes.IsGenerated)
    (free : a.ledger.holds commission.event.id candidate.registration.id = false)
    (free' : b.ledger.holds commission.event.id candidate.registration.id = false)
    (drawn : a.codes.next = some (codes, first)) (drawn' : b.codes.next = some (codes, second))
    (fresh : a.ledger.codesTaken codes = false) (fresh' : b.ledger.codesTaken codes = false) :
    (Attempt.complete commission candidate b).1.unnumbered =
      (Attempt.complete commission candidate a).1.unnumbered := by
  rw [Attempt.complete_of_free free drawn fresh generated alike.unrivalled.1,
    Attempt.complete_of_free free' drawn' fresh' generated alike.unrivalled.2]
  have same := (alike.withCodes first second).produce_eq generated
  generalize (produce commission candidate codes).perform { b with codes := second } = there at same ⊢
  generalize (produce commission candidate codes).perform { a with codes := first } = here at same ⊢
  obtain ⟨result, later⟩ := here
  obtain ⟨result', later'⟩ := there
  have equal : result' = result := same
  subst equal
  cases result' <;> rfl

end Batch
end Issuance
