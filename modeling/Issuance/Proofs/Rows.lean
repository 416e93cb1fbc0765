import Issuance.Proofs.History
/-!
What one operation may do to the rows of the ledger. Statements about a single table go through this
list, whichever operation it was.
-/

namespace Issuance
namespace Operation

/-- What an operation may do to the ledger: nothing, change the templates, take one of them away,
write down check-ins, add certificates, or mark them. -/
inductive Rewrites (l : Ledger) : Operation → Ledger → Prop
  | spares (op : Operation) : Rewrites l op l
  | templates (op : Operation) (templates : List Template) : Rewrites l op { l with templates }
  | removes (id : Int) : Rewrites l (.deleteTemplate id) (l.removeTemplate id)
  | checksIn (registration : Registration) (time : Option Moment) (attendances : List Attendance) :
      Rewrites l (.checkIn registration time) { l with attendances }
  | issues (options : Batch.Options) (event template : Int) (request : Option (List Json))
      (rows : List Certificate) :
      Rewrites l (.generate options event template request)
        { l with certificates := l.certificates ++ rows }
  | marks (event : Int) (address : VerifyAddress) (request : Option (List Json))
      (message : Option String) (certificates : List Certificate)
      (issues : Ledger.issues { l with certificates } = l.issues) :
      Rewrites l (.mail event address request message) { l with certificates }

theorem rewrites (op : Operation) {office : Office} (sound : office.Sound) :
    op.Rewrites office.ledger (op.work.after office).ledger := by
  cases op with
  | createTemplate catalog draft =>
      rw [work, Work.after_bind_pure, Work.after]
      obtain ⟨later, uploaded, ⟨failure, failed⟩ | ⟨t, done, -⟩⟩ :=
        creates_createTemplate catalog draft sound.vault
      · rw [failed, uploaded.state]
        exact .spares _
      · rw [done, uploaded.state]
        exact .templates _ _
  | setMapping catalog id proposed =>
      rw [Work.after]
      rcases setMapping_cases catalog id proposed office with
        ⟨failure, refused⟩ | ⟨template, mapping, -, -, changed⟩
      · rw [refused]
        exact .spares _
      · rw [changed]
        exact .templates _ _
  | checkIn registration time =>
      obtain ⟨attendances, changed⟩ := checkIn_cases registration time office
      rw [changed]
      exact .checksIn registration time attendances
  | generate options event template request =>
      rw [work, Work.after_bind_pure, Work.after]
      rcases Batch.run_cases options event template request office with
        ⟨failure, refused⟩ | ⟨found, held, source, participants, rejected, -, issued⟩
      · rw [refused]
        exact .spares _
      · rw [issued]
        obtain ⟨rows, effect, -⟩ := Batch.effect_issueAll (options.commission found held source)
          (office.ledger.nextSerial held.id) participants sound
        rw [effect.state]
        exact .issues options event template request rows
  | mail event address request message =>
      rw [work, Work.after_bind_pure]
      have notified := Mail.notified_notify event address request message sound.ledger
      have issues := notified.issues
      rw [notified.state] at issues ⊢
      exact .marks event address request message _ issues
  | purge dryRun =>
      rw [work, Work.after_bind_pure, (Purge.cleared_run dryRun sound.vault).state]
      exact .spares _
  | deleteTemplate id =>
      rw [Work.after]
      rcases deleteTemplate_cases id office with ⟨failure, refused⟩ | ⟨template, -, removed⟩
      · rw [refused]
        exact .spares _
      · have cleared := @cleared_discardAll template.refs
          { office with ledger := office.ledger.removeTemplate id } sound.vault
        rw [Work.after] at cleared
        rw [removed, cleared.state]
        exact .removes id

/-- Only batches issue certificates. -/
theorem issues_work {op : Operation} {office : Office} (sound : office.Sound)
    (idle : ∀ options event template request, op ≠ .generate options event template request) :
    (op.work.after office).ledger.issues = office.ledger.issues := by
  have rewritten := op.rewrites sound
  generalize (op.work.after office).ledger = later at rewritten ⊢
  cases rewritten with
  | spares => rfl
  | templates => rfl
  | removes id => exact office.ledger.issues_removeTemplate id
  | checksIn => rfl
  | issues options event template request => exact absurd rfl (idle options event template request)
  | marks event address request message certificates same => exact same

/-- Only check-ins change the rows of attendance. -/
theorem attendances_work {op : Operation} {office : Office} (sound : office.Sound)
    (other : ∀ registration time, op ≠ .checkIn registration time) :
    (op.work.after office).ledger.attendances = office.ledger.attendances := by
  have rewritten := op.rewrites sound
  generalize (op.work.after office).ledger = later at rewritten ⊢
  cases rewritten with
  | checksIn registration time => exact absurd rfl (other registration time)
  | _ => rfl

end Operation
end Issuance
