import Issuance.Proofs.History
/-!
Issued certificates are durable: through every history the row stays with its settled columns, and
as long as no template is removed its file is read as it was stored.
-/

namespace Issuance

/-- A row that a batch has entered is never removed and keeps its settled columns. While no
template is removed, its file is read as it was when the row was entered, which is as it was drawn
in the participant's turn. -/
theorem certificate_lasts {start : Office} (fresh : start.IsFresh) {before after : List Step}
    (ordinary : ∀ step ∈ before ++ after, step.IsOrdinary) (options : Batch.Options)
    (event template : Int) (request : Option (List Json)) {row : Certificate}
    (unissued : row ∉ (start.through before).ledger.certificates)
    (issued : row ∈ (start.through
      (before ++ [.operation (.generate options event template request)])).ledger.certificates) :
    (∃ last ∈ (start.through (before ++ [.operation (.generate options event template request)]
        ++ after)).ledger.certificates,
      last = { row with
        templateId := last.templateId
        emailSent := last.emailSent
        emailSentAt := last.emailSentAt } ∧
      ∀ other ∈ (start.through (before ++ [.operation (.generate options event template request)]
        ++ after)).ledger.certificates, other.id = row.id → other = last) ∧
    ((∀ step ∈ after, step.isRemoval = false) → ∃ commission turn success content,
      Batch.IsTurn options event template request (start.through before) commission turn ∧
      turn.Leaves commission (start.through (before ++ [.operation (.generate options event template
        request)] ++ after)).vault success row content) := by
  have ordinaryBefore : ∀ step ∈ before, Step.IsOrdinary step :=
    fun step member => ordinary step (List.mem_append_left after member)
  have ordinaryAfter : ∀ step ∈ after, Step.IsOrdinary step :=
    fun step member => ordinary step (List.mem_append_right before member)
  have created := (Office.advances_through ordinaryBefore fresh.sound).sound
  simp only [Office.through_append] at issued ⊢
  generalize start.through before = office at created unissued issued ⊢
  have batch : office.through [.operation (.generate options event template request)] =
      (Batch.run options event template request).after office :=
    Work.after_bind_pure _ _ office
  have turned : ∃ commission turn success content,
      Batch.IsTurn options event template request office commission turn ∧
      turn.Leaves commission
        (office.through [.operation (.generate options event template request)]).vault success row
        content := by
    rw [batch, Work.after] at issued ⊢
    rcases Batch.run_cases options event template request office with
      ⟨failure, refused⟩ | ⟨found, held, source, participants, rejected, opened, done⟩
    · rw [refused] at issued
      exact absurd issued unissued
    · rw [done] at issued ⊢
      obtain ⟨rows, effect, -⟩ := Batch.effect_issueAll (options.commission found held source)
        (office.ledger.nextSerial held.id) participants created
      rw [effect.certificates] at issued
      have added := (List.mem_append.1 issued).resolve_left unissued
      obtain ⟨turn, present, success, content, leaves⟩ := effect.exists_turn added
      exact ⟨_, turn, success, content,
        ⟨found, held, source, participants, rejected, opened, rfl, present⟩, leaves⟩
  have generated : Office.Advances True office
      (office.through [.operation (.generate options event template request)]) :=
    Office.advances_generate options event template request created
  have rest := Office.advances_through ordinaryAfter generated.sound
  generalize office.through [.operation (.generate options event template request)] = between
    at issued turned rest ⊢
  constructor
  · obtain ⟨last, present, same⟩ := rest.retains.exists_row issued
    have columns := Certificate.eq_of_issue_eq same
    refine ⟨last, present, columns, ?_⟩
    intro other there sameId
    have lastId : last.id = row.id := by rw [columns]
    exact List.inj_on_of_nodup_map rest.sound.ledger.ids there present (sameId.trans lastId.symm)
  · intro careful
    obtain ⟨commission, turn, success, content, isTurn, leaves⟩ := turned
    have there := rest.guards careful row issued content leaves.there
    exact ⟨commission, turn, success, content, isTurn,
      leaves.later there (rest.retains.located _) rest.retains.secondary⟩

def Launch.certificate : Certificate where
  id := 1
  eventId := 1
  registrationId := 1
  templateId := some 1
  codes := ⟨"CERT-000000000001", "VERIFY-0000000000000001"⟩
  serial := 1
  fileRef := "primary:certificates/1/1/CERT-000000000001.png"
  fileFormat := some "png"
  usesFallback := false
  participantName := some "Ada"
  participantEmail := none
  eventTitle := some "Launch"
  eventDate := none
  eventLocation := none
  emailSent := false
  emailSentAt := none
  issuedAt := some Launch.clock

theorem launch_certificate_lasts :
    Launch.certificate ∉ (Launch.start.through Launch.history).ledger.certificates ∧
      Launch.certificate ∈ (Launch.start.through (Launch.history ++
        [.operation (.generate Launch.options 1 1 none)])).ledger.certificates ∧
      ∃ content, (Launch.start.through (Launch.history ++
        [.operation (.generate Launch.options 1 1 none)] ++
          [.operation (.purge false)])).vault.read Launch.certificate.fileRef = .ok content := by
  have unissued :
      Launch.certificate ∉ (Launch.start.through Launch.history).ledger.certificates := by
    decide +kernel
  have issued : Launch.certificate ∈ (Launch.start.through (Launch.history ++
      [.operation (.generate Launch.options 1 1 none)])).ledger.certificates := by
    decide +kernel
  have ordinary : ∀ step ∈ Launch.history ++ [.operation (.purge false)], Step.IsOrdinary step := by
    intro step member
    rcases List.mem_append.1 member with early | late
    · exact Launch.isOrdinary_history step early
    · rw [List.mem_singleton.1 late]
      trivial
  have lasts := certificate_lasts Launch.isFresh_start ordinary Launch.options 1 1 none unissued
    issued
  obtain ⟨commission, turn, success, content, -, leaves⟩ := lasts.2 (by
    intro step member
    rw [List.mem_singleton.1 member]
    rfl)
  exact ⟨unissued, issued, content, leaves.there⟩

end Issuance
