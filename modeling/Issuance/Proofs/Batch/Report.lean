import Issuance.Proofs.Batch.Selection
import Issuance.Proofs.History
/-!
The report of a batch tells exactly what the batch has done: each success stands for one new row
and its file, in the same order, and nothing else has changed in the ledger or in the vault.
-/

namespace Issuance
namespace Batch

theorem Opened.event_id {options : Options} {eventId templateId : Int}
    {request : Option (List Json)} {office : Office} {template : Template} {event : Event}
    {source : TemplateSource} {participants : List Registration} {rejected : List Result}
    (opened : Opened options eventId templateId request office template event source participants
      rejected) : event.id = eventId :=
  Ledger.id_of_event? opened.eventFound

theorem Opened.template_id {options : Options} {eventId templateId : Int}
    {request : Option (List Json)} {office : Office} {template : Template} {event : Event}
    {source : TemplateSource} {participants : List Registration} {rejected : List Result}
    (opened : Opened options eventId templateId request office template event source participants
      rejected) : template.id = templateId :=
  Ledger.id_of_template? opened.templateFound

/-- What a batch reports agrees with what it has done. -/
structure Agrees (commission : Commission) (turns : List Turn) (rejected : List Result)
    (office later : Office) (results : List Result) (rows : List Certificate) : Prop where
  reported : results = turns.map (Turn.result commission) ++ rejected
  rejections : ∀ result ∈ rejected, ∃ id, id ∉ turns.map (·.candidate.registration.id) ∧
    result = rejection office.ledger commission.event.id id
  issued : List.Forall₂
    (fun result row => ∃ turn ∈ turns, result = turn.result commission ∧
      ∃ success content, turn.Leaves commission later.vault success row content)
    (results.filter (·.outcome.isSuccess)) rows
  state : later = { office with
    ledger := { office.ledger with certificates := office.ledger.certificates ++ rows }
    vault := later.vault, codes := later.codes, disturbances := later.disturbances }
  files : Storage.Vault.Frame
    (fun store path => ∃ row ∈ rows, office.vault.location? row.fileRef = some (store, path))
    office.vault later.vault
  accepted : ∀ turn ∈ turns, ∀ count left place,
    (Attempt.steps commission turn.candidate count .start turn.office).1.stage ≠
      .withdrawing left place
  setbacks : ∀ turn ∈ turns, ∀ setback, turn.outcome commission = .setback setback →
    (turn.after commission).ledger = turn.office.ledger ∧
      Storage.Vault.Frame (fun _ _ => False) turn.office.vault (turn.after commission).vault
  unfinished : ∀ result ∈ results, ∀ setback, result.outcome = .setback setback →
    setback.progress ≠ .rendered
  without : (office.ledger.registrations.map (·.id)).Nodup → ∀ result ∈ results,
    result.outcome.isSuccess = false → ∀ row ∈ rows, row.registrationId ≠ result.participantId

/-- A turn without a certificate leaves the ledger and the files alone, and ends before anything is
stored. -/
theorem Turn.of_setback {commission : Commission} {turn : Turn} (sound : turn.office.Sound)
    {setback : Setback} (failed : turn.outcome commission = .setback setback) :
    (turn.after commission).ledger = turn.office.ledger ∧
      Storage.Vault.Frame (fun _ _ => False) turn.office.vault (turn.after commission).vault ∧
      setback.progress ≠ .rendered := by
  have completed : Completed commission turn.candidate turn.office (turn.outcome commission)
    (turn.after commission) := Attempt.completed_complete sound
  rw [failed] at completed
  generalize turn.after commission = later at completed
  cases completed with
  | setback failure progress supply vault disturbances cause refused =>
      refine ⟨rfl, refused.frame, ?_⟩
      cases cause with
      | held | exhausted | undrawn | unproduced =>
          intro rendered
          cases rendered

/-- The successful results of a batch are those of its successful turns. -/
theorem filter_isSuccess_results {commission : Commission} {turns : List Turn}
    {rejected : List Result}
    (unsuccessful : ∀ result ∈ rejected, result.outcome.isSuccess = false) :
    (turns.map (Turn.result commission) ++ rejected).filter (·.outcome.isSuccess) =
      (turns.filter (Turn.succeeds commission)).map (Turn.result commission) := by
  have none : rejected.filter (·.outcome.isSuccess) = [] := by
    rw [List.filter_eq_nil_iff]
    intro result member
    rw [unsuccessful result member]
    exact Bool.false_ne_true
  rw [List.filter_append, List.filter_map, none, List.append_nil]
  rfl

theorem agrees_of_effect {options : Options} {eventId templateId : Int}
    {request : Option (List Json)} {office later : Office} {template : Template} {event : Event}
    {source : TemplateSource} {participants : List Registration} {rejected : List Result}
    {rows : List Certificate} (sound : office.Sound)
    (opened : Opened options eventId templateId request office template event source participants
      rejected)
    (effect : Effect (options.commission template event source)
      (turns (options.commission template event source) (office.ledger.nextSerial event.id)
        participants office) office later rows) :
    Agrees (options.commission template event source)
      (turns (options.commission template event source) (office.ledger.nextSerial event.id)
        participants office) rejected office later
      ((turns (options.commission template event source) (office.ledger.nextSerial event.id)
        participants office).map (Turn.result (options.commission template event source)) ++
          rejected) rows := by
  obtain ⟨eligible, refused⟩ := select_cases opened.selected
  have sounds := sound_turns (options.commission template event source)
    (office.ledger.nextSerial event.id) participants sound
  have whose := registrations_turns (options.commission template event source)
    (office.ledger.nextSerial event.id) participants office
  have eventIs : (options.commission template event source).event.id = event.id := rfl
  rw [← eventIs] at refused
  generalize options.commission template event source = commission at *
  generalize turns commission (office.ledger.nextSerial event.id) participants office = turns at *
  have ids : turns.map (·.candidate.registration.id) = participants.map (·.id) := by
    rw [← whose, List.map_map]
    rfl
  have rejections : ∀ result ∈ rejected, ∃ id, id ∉ turns.map (·.candidate.registration.id) ∧
      result = rejection office.ledger commission.event.id id := by
    rw [ids]
    exact refused
  have unsuccessful : ∀ result ∈ rejected, result.outcome.isSuccess = false := by
    intro result member
    obtain ⟨id, -, rfl⟩ := refused result member
    exact isSuccess_rejection office.ledger commission.event.id id
  refine ⟨rfl, rejections, ?_, effect.state, effect.frame, ?_, ?_, ?_, ?_⟩
  · rw [filter_isSuccess_results unsuccessful, List.forall₂_map_left_iff]
    have ofTurns : ∀ turn ∈ turns.filter (Turn.succeeds commission), turn ∈ turns :=
      fun _ member => (List.mem_filter.1 member).1
    refine ((List.forall₂_and_left _ _).2 ⟨ofTurns, effect.issued⟩).imp ?_
    rintro turn row ⟨member, leaves⟩
    exact ⟨turn, member, rfl, leaves⟩
  · intro turn member count left place
    exact (Attempt.Alone.steps (sounds turn member) count .opening).not_withdrawing left place
  · intro turn member setback failed
    obtain ⟨ledger, files, -⟩ := Turn.of_setback (sounds turn member) failed
    exact ⟨ledger, files⟩
  · intro result member setback failed
    rcases List.mem_append.1 member with ofTurn | ofRejected
    · obtain ⟨turn, present, rfl⟩ := List.mem_map.1 ofTurn
      exact (Turn.of_setback (sounds turn present) failed).2.2
    · obtain ⟨id, -, rfl⟩ := refused result ofRejected
      obtain ⟨e, outcome, -⟩ := outcome_rejection office.ledger commission.event.id id
      rw [outcome] at failed
      cases failed
      intro rendered
      cases rendered
  · intro distinct result member failed row new same
    have apart : (turns.map (·.candidate.registration.id)).Nodup :=
      ids ▸ (Ledger.nodup_ids_eligible distinct event.id).sublist (eligible.map _)
    obtain ⟨turn, present, success, content, leaves⟩ := effect.exists_turn new
    rw [leaves.registration] at same
    rcases List.mem_append.1 member with ofTurn | ofRejected
    · obtain ⟨other, there, rfl⟩ := List.mem_map.1 ofTurn
      have equal := List.inj_on_of_nodup_map apart present there same
      have succeeded : (turn.outcome commission).isSuccess = false := equal ▸ failed
      rw [leaves.outcome] at succeeded
      cases succeeded
    · obtain ⟨id, absent, rfl⟩ := rejections result ofRejected
      rw [participantId_rejection] at same
      exact absent (List.mem_map.2 ⟨turn, present, same⟩)

end Batch

def Launch.result : Batch.Result where
  participantId := 1
  participantName := some "Ada"
  outcome := .success ⟨1, ⟨"CERT-000000000001", "VERIFY-0000000000000001"⟩,
    "primary:certificates/1/1/CERT-000000000001.png", 1, false⟩

end Issuance
