import Issuance.Proofs.Batch.Selection
import Issuance.Proofs.Batch.Turns
/-!
A batch from its beginning: it is refused and changes nothing, or it runs through the turns of its
participants.
-/

namespace Issuance
namespace Batch

def Options.commission (options : Options) (template : Template) (event : Event)
    (source : TemplateSource) : Commission :=
  { event, templateId := template.id, source, catalog := options.catalog
    verifyAddress := .ofSetting options.verifyBase, renderTimeout := options.renderTimeout }

/-- What a batch has found out when it begins to issue certificates. -/
structure Opened (options : Options) (eventId templateId : Int) (request : Option (List Json))
    (office : Office) (template : Template) (event : Event) (source : TemplateSource)
    (participants : List Registration) (rejected : List Result) : Prop where
  templateFound : office.ledger.template? templateId = some template
  ready : template.requireReady = .ok ()
  eventFound : office.ledger.event? eventId = some event
  fits : checkEvent template event = .ok ()
  selected : (select event.id request).perform office = (.ok (participants, rejected), office)
  drawnFrom : template.source = .ok source

theorem run_cases (options : Options) (eventId templateId : Int) (request : Option (List Json))
    (office : Office) :
    (∃ failure, (run options eventId templateId request).perform office =
        (.error failure, office)) ∨
      ∃ template event source participants rejected,
        Opened options eventId templateId request office template event source participants
          rejected ∧
        (run options eventId templateId request).perform office =
          (.ok ((issueAll (options.commission template event source)
              (office.ledger.nextSerial event.id) participants office).1 ++ rejected),
            (issueAll (options.commission template event source)
              (office.ledger.nextSerial event.id) participants office).2) := by
  unfold run
  obtain ⟨templateFound, askTemplate⟩ := (looks_requireTemplate templateId).perform office
  cases templateFound with
  | error failure => exact Or.inl ⟨failure, Work.perform_bind_of_error askTemplate _⟩
  | ok template =>
      rw [Work.perform_bind_of_ok askTemplate]
      cases ready : template.requireReady with
      | error e => exact Or.inl ⟨.error e, rfl⟩
      | ok _ =>
          rw [Work.perform_bind_of_ok (Work.perform_ofError (.ok ()) office)]
          obtain ⟨eventFound, askEvent⟩ := (looks_requireEvent eventId).perform office
          cases eventFound with
          | error failure => exact Or.inl ⟨failure, Work.perform_bind_of_error askEvent _⟩
          | ok event =>
              rw [Work.perform_bind_of_ok askEvent]
              cases fits : checkEvent template event with
              | error e => exact Or.inl ⟨.error e, rfl⟩
              | ok _ =>
                  rw [Work.perform_bind_of_ok (Work.perform_ofError (.ok ()) office)]
                  obtain ⟨selected, askSelect⟩ := (looks_select event.id request).perform office
                  cases selected with
                  | error failure =>
                      exact Or.inl ⟨failure, Work.perform_bind_of_error askSelect _⟩
                  | ok pair =>
                      obtain ⟨participants, rejected⟩ := pair
                      rw [Work.perform_bind_of_ok askSelect]
                      simp only
                      split
                      · exact Or.inl ⟨_, rfl⟩
                      · cases drawnFrom : template.source with
                        | error failure => exact Or.inl ⟨failure, rfl⟩
                        | ok source =>
                            refine Or.inr ⟨template, event, source, participants, rejected, ?_, rfl⟩
                            exact ⟨template_of_requireTemplate askTemplate, ready,
                              event_of_requireEvent askEvent, fits, askSelect, drawnFrom⟩

/-- There is one way only in which a batch begins. -/
theorem Opened.perform_run {options : Options} {eventId templateId : Int}
    {request : Option (List Json)} {office later : Office} {template : Template} {event : Event}
    {source : TemplateSource} {participants : List Registration} {rejected results : List Result}
    (opened : Opened options eventId templateId request office template event source participants
      rejected)
    (done : (run options eventId templateId request).perform office = (.ok results, later)) :
    results = (issueAll (options.commission template event source)
        (office.ledger.nextSerial event.id) participants office).1 ++ rejected ∧
      later = (issueAll (options.commission template event source)
        (office.ledger.nextSerial event.id) participants office).2 := by
  rcases run_cases options eventId templateId request office with
    ⟨failure, refused⟩ | ⟨template', event', source', participants', rejected', other, issued⟩
  · rw [refused] at done
    cases done
  · have sameTemplate := opened.templateFound.symm.trans other.templateFound
    cases sameTemplate
    have sameEvent := opened.eventFound.symm.trans other.eventFound
    cases sameEvent
    have sameSource := opened.drawnFrom.symm.trans other.drawnFrom
    cases sameSource
    have sameSelection := opened.selected.symm.trans other.selected
    cases sameSelection
    rw [issued] at done
    obtain ⟨reported, reached⟩ := Prod.mk.inj done
    exact ⟨(Except.ok.inj reported).symm, reached.symm⟩

/-- A batch for which everything is found, and somebody is selected, runs to its end. -/
theorem Opened.exists_run {options : Options} {eventId templateId : Int}
    {request : Option (List Json)} {office : Office} {template : Template} {event : Event}
    {source : TemplateSource} {participants : List Registration} {rejected : List Result}
    (opened : Opened options eventId templateId request office template event source participants
      rejected)
    (templateInTables : -idBound ≤ templateId ∧ templateId < idBound)
    (eventInTables : -idBound ≤ eventId ∧ eventId < idBound)
    (someone : participants.isEmpty = false) :
    ∃ results later, (run options eventId templateId request).perform office =
      (.ok results, later) := by
  unfold run
  rw [Work.perform_bind_of_ok (perform_requireTemplate templateInTables opened.templateFound),
    opened.ready, Work.perform_bind_of_ok (Work.perform_ofError (.ok ()) office),
    Work.perform_bind_of_ok (perform_requireEvent eventInTables opened.eventFound), opened.fits,
    Work.perform_bind_of_ok (Work.perform_ofError (.ok ()) office),
    Work.perform_bind_of_ok opened.selected]
  simp only [someone, Bool.false_eq_true, if_false, opened.drawnFrom]
  exact ⟨_, _, rfl⟩

/-- What such a batch reports are the results of its turns and those of the rejected ids. -/
theorem Opened.perform_run_eq {options : Options} {eventId templateId : Int}
    {request : Option (List Json)} {office : Office} {template : Template} {event : Event}
    {source : TemplateSource} {participants : List Registration} {rejected : List Result}
    (opened : Opened options eventId templateId request office template event source participants
      rejected)
    (templateInTables : -idBound ≤ templateId ∧ templateId < idBound)
    (eventInTables : -idBound ≤ eventId ∧ eventId < idBound) (someone : participants ≠ []) :
    (run options eventId templateId request).perform office =
      (.ok ((turns (options.commission template event source)
          (office.ledger.nextSerial event.id) participants office).map
            (Turn.result (options.commission template event source)) ++ rejected),
        (issueAll (options.commission template event source)
          (office.ledger.nextSerial event.id) participants office).2) := by
  obtain ⟨results, later, done⟩ := opened.exists_run templateInTables eventInTables
    (List.isEmpty_eq_false_iff.2 someone)
  obtain ⟨rfl, rfl⟩ := opened.perform_run done
  rw [done, results_issueAll]

structure IsTurn (options : Options) (eventId templateId : Int) (request : Option (List Json))
    (office : Office) (commission : Commission) (turn : Turn) : Prop where
  opened : ∃ template event source participants rejected,
    Opened options eventId templateId request office template event source participants rejected ∧
      commission = options.commission template event source ∧
        turn ∈ turns commission (office.ledger.nextSerial event.id) participants office

/-- What a batch that reports results has done. -/
theorem effect_run {options : Options} {eventId templateId : Int} {request : Option (List Json)}
    {office later : Office} {results : List Result} (sound : office.Sound)
    (done : (run options eventId templateId request).perform office = (.ok results, later)) :
    ∃ template event source participants rejected rows,
      Opened options eventId templateId request office template event source participants rejected ∧
        results = (turns (options.commission template event source)
          (office.ledger.nextSerial event.id) participants office).map
            (Turn.result (options.commission template event source)) ++ rejected ∧
        Effect (options.commission template event source)
          (turns (options.commission template event source) (office.ledger.nextSerial event.id)
            participants office) office later rows ∧
        later.Sound := by
  rcases run_cases options eventId templateId request office with
    ⟨failure, refused⟩ | ⟨template, event, source, participants, rejected, opened, issued⟩
  · rw [refused] at done
    cases done
  · rw [issued] at done
    obtain ⟨rows, effect, after⟩ := effect_issueAll (options.commission template event source)
      (office.ledger.nextSerial event.id) participants sound
    obtain ⟨reported, rfl⟩ := Prod.mk.inj done
    refine ⟨template, event, source, participants, rejected, rows, opened, ?_, effect, after⟩
    rw [← results_issueAll]
    exact (Except.ok.inj reported).symm

end Batch
end Issuance
