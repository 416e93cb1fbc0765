import Issuance.Proofs.Batch.Report
import Issuance.Proofs.Template.Canvases
/-!
Why a batch is refused. Six objections may be made to a call before the first participant's turn;
the first one that holds decides the error, and nothing has been changed by then. A call to which
there is no objection runs through all turns, whatever becomes of them.
-/

namespace Issuance

/-- What a template of a reachable office is drawn from can be told: it is a deck, or its canvas is
one that was accepted. -/
theorem Office.IsReachable.exists_source {office : Office} (reachable : office.IsReachable)
    {t : Template} (member : t ∈ office.ledger.templates) : ∃ source, t.source = .ok source := by
  cases reachable.isRecorded t member with
  | deck ref kind contentRef uploaded noCanvas =>
      have known : TemplateKind.ofWord? TemplateKind.deck.word = some .deck := by decide
      refine ⟨.deck t.contentRef t.mapping, ?_⟩
      unfold Template.source TemplateSource.of
      rw [kind, known]
  | canvas spec kind noFile canvas =>
      obtain ⟨start, history, fresh, ordinary, rfl⟩ := reachable
      obtain ⟨creation, accepted, refs, -, -, made⟩ :=
        Office.exists_creation_of_canvas fresh ordinary member kind
      exact ⟨_, Template.source_of_canvas kind made.canvas made.isAcceptable⟩

theorem Ledger.template?_eq_none_iff {l : Ledger} {id : Int} :
    l.template? id = none ↔ ∀ t ∈ l.templates, t.id ≠ id := by
  simp only [template?, List.find?_eq_none, beq_iff_eq, ne_eq]

theorem Ledger.event?_eq_none_iff {l : Ledger} {id : Int} :
    l.event? id = none ↔ ∀ e ∈ l.events, e.id ≠ id := by
  simp only [event?, List.find?_eq_none, beq_iff_eq, ne_eq]

theorem Template.mem_missing {t : Template} {p : String} :
    p ∈ t.missing ↔ p ∈ t.placeholders ∧ t.mapping.target? p = none := by
  rw [missing, Mapping.missing, List.mem_filter, Option.isNone_iff_eq_none]

/-- The check of a template passes, or it names the placeholders that are mapped to nothing. -/
theorem Template.requireReady_cases (t : Template) :
    (t.requireReady = .ok () ∧ t.missing = []) ∨
      t.requireReady = .error (.incompleteMapping t.missing) ∧ t.missing ≠ [] := by
  unfold requireReady isReady
  cases none : t.missing with
  | nil => exact Or.inl ⟨rfl, rfl⟩
  | cons first rest => exact Or.inr ⟨rfl, List.cons_ne_nil _ _⟩

namespace Batch

variable {options : Options} {eventId templateId : Int} {request : Option (List Json)}
  {office : Office} {template : Template} {event : Event}

/-! The ways of being refused, in the order of the questions that a batch asks. -/

section

variable (templateInTables : -idBound ≤ templateId ∧ templateId < idBound)

include templateInTables

theorem run_of_unknownTemplate (absent : office.ledger.template? templateId = none) :
    (run options eventId templateId request).perform office =
      (.error (.error (.templateNotFound templateId)), office) := by
  have asked : (requireTemplate templateId).perform office =
      (.error (.error (.templateNotFound templateId)), office) := by
    unfold requireTemplate
    rw [Work.perform_bind_of_ok (perform_checkId templateInTables office),
      Work.perform_bind_of_ok (Work.perform_ledger office), absent]
    rfl
  exact Work.perform_bind_of_error asked _

variable (found : office.ledger.template? templateId = some template)

include found

theorem run_of_unready {e : Error} (unready : template.requireReady = .error e) :
    (run options eventId templateId request).perform office = (.error (.error e), office) := by
  unfold run
  rw [Work.perform_bind_of_ok (perform_requireTemplate templateInTables found), unready]
  rfl

variable (ready : template.requireReady = .ok ())
  (eventInTables : -idBound ≤ eventId ∧ eventId < idBound)

include ready eventInTables

theorem run_of_unknownEvent (absent : office.ledger.event? eventId = none) :
    (run options eventId templateId request).perform office =
      (.error (.error (.eventNotFound eventId)), office) := by
  have asked : (requireEvent eventId).perform office =
      (.error (.error (.eventNotFound eventId)), office) := by
    unfold requireEvent
    rw [Work.perform_bind_of_ok (perform_checkId eventInTables office),
      Work.perform_bind_of_ok (Work.perform_ledger office), absent]
    rfl
  unfold run
  rw [Work.perform_bind_of_ok (perform_requireTemplate templateInTables found), ready,
    Work.perform_bind_of_ok (Work.perform_ofError (.ok ()) office)]
  exact Work.perform_bind_of_error asked _

variable (eventFound : office.ledger.event? eventId = some event)

include eventFound

theorem run_of_misfit {e : Error} (misfit : checkEvent template event = .error e) :
    (run options eventId templateId request).perform office = (.error (.error e), office) := by
  unfold run
  rw [Work.perform_bind_of_ok (perform_requireTemplate templateInTables found), ready,
    Work.perform_bind_of_ok (Work.perform_ofError (.ok ()) office),
    Work.perform_bind_of_ok (perform_requireEvent eventInTables eventFound), misfit]
  rfl

variable (fits : checkEvent template event = .ok ())

include fits

theorem run_of_unselected {failure : Failure}
    (refused : (select event.id request).perform office = (.error failure, office)) :
    (run options eventId templateId request).perform office = (.error failure, office) := by
  unfold run
  rw [Work.perform_bind_of_ok (perform_requireTemplate templateInTables found), ready,
    Work.perform_bind_of_ok (Work.perform_ofError (.ok ()) office),
    Work.perform_bind_of_ok (perform_requireEvent eventInTables eventFound), fits,
    Work.perform_bind_of_ok (Work.perform_ofError (.ok ()) office)]
  exact Work.perform_bind_of_error refused _

theorem run_of_nobody {rejected : List Result}
    (selected : (select event.id request).perform office = (.ok ([], rejected), office)) :
    (run options eventId templateId request).perform office =
      (.error (.error .noEligibleParticipants), office) := by
  unfold run
  rw [Work.perform_bind_of_ok (perform_requireTemplate templateInTables found), ready,
    Work.perform_bind_of_ok (Work.perform_ofError (.ok ()) office),
    Work.perform_bind_of_ok (perform_requireEvent eventInTables eventFound), fits,
    Work.perform_bind_of_ok (Work.perform_ofError (.ok ()) office),
    Work.perform_bind_of_ok selected]
  rfl

end

/-- What may be objected to a batch. -/
inductive Objection
  | unknownTemplate
  | unmapped
  | unknownEvent
  | otherEvent
  | unreadableId
  | nobody
deriving DecidableEq, Repr

namespace Objection

/-- All objections, in the order in which they are looked into. -/
def inOrder : List Objection :=
  [unknownTemplate, unmapped, unknownEvent, otherEvent, unreadableId, nobody]

def earlier (objection : Objection) : List Objection :=
  inOrder.takeWhile fun other => other ≠ objection

/-- When an objection holds of a call. -/
def Holds (l : Ledger) (eventId templateId : Int) (request : Option (List Json)) :
    Objection → Prop
  | unknownTemplate => ∀ t ∈ l.templates, t.id ≠ templateId
  | unmapped => ∃ t, l.template? templateId = some t ∧
      ∃ p ∈ t.placeholders, t.mapping.target? p = none
  | unknownEvent => ∀ e ∈ l.events, e.id ≠ eventId
  | otherEvent => ∃ t other, l.template? templateId = some t ∧ t.eventId = some other ∧
      other ≠ eventId
  | unreadableId => ∃ raws, request = some raws ∧
      ∃ raw ∈ raws, ∀ id, raw.toInteger ≠ .ok id
  | nobody => ∀ r ∈ l.registrations, r.eventId = eventId → l.isEligible r = true →
      ∃ raws, request = some raws ∧ ∀ raw ∈ raws, raw.toInteger ≠ .ok r.id

/-- The failure by which an objection is reported. Of several values that are no ids, the first one
is reported; one without bounds is a defect of its own. -/
inductive Reports (l : Ledger) (eventId templateId : Int) (request : Option (List Json)) :
    Objection → Failure → Prop
  | unknownTemplate : Reports l eventId templateId request unknownTemplate
      (.error (.templateNotFound templateId))
  | unmapped (t : Template) (found : l.template? templateId = some t) :
      Reports l eventId templateId request unmapped (.error (.incompleteMapping t.missing))
  | unknownEvent : Reports l eventId templateId request unknownEvent
      (.error (.eventNotFound eventId))
  | otherEvent (t : Template) (other : Int) (found : l.template? templateId = some t)
      (bound : t.eventId = some other) : Reports l eventId templateId request otherEvent
      (.error (.request (.otherEvent templateId other eventId)))
  | unusable (before after : List Json) (raw : Json) (given : request = some (before ++ raw :: after))
      (readable : ∀ first ∈ before, ∃ id, first.toInteger = .ok id)
      (unusable : raw.toInteger = .error .unusable) :
      Reports l eventId templateId request unreadableId
        (.error (.request (.participantId raw.shown)))
  | unbounded (before after : List Json) (raw : Json)
      (given : request = some (before ++ raw :: after))
      (readable : ∀ first ∈ before, ∃ id, first.toInteger = .ok id)
      (unbounded : raw.toInteger = .error .unbounded) :
      Reports l eventId templateId request unreadableId
        (.defect (.overflow "cannot convert float infinity to integer"))
  | nobody : Reports l eventId templateId request nobody (.error .noEligibleParticipants)

end Objection

section

variable {l : Ledger}

theorem exists_template_of_not_unknown
    (known : ¬Objection.Holds l eventId templateId request .unknownTemplate) :
    ∃ t, l.template? templateId = some t := by
  refine Option.ne_none_iff_exists'.1 fun absent => known ?_
  exact Ledger.template?_eq_none_iff.1 absent

theorem ready_of_not_unmapped (found : l.template? templateId = some template)
    (mapped : ¬Objection.Holds l eventId templateId request .unmapped) :
    template.requireReady = .ok () := by
  rcases template.requireReady_cases with ⟨ready, -⟩ | ⟨-, some⟩
  · exact ready
  · obtain ⟨p, member⟩ := List.exists_mem_of_ne_nil _ some
    obtain ⟨listed, unmapped⟩ := Template.mem_missing.1 member
    exact absurd ⟨template, found, p, listed, unmapped⟩ mapped

theorem exists_event_of_not_unknown
    (known : ¬Objection.Holds l eventId templateId request .unknownEvent) :
    ∃ event, l.event? eventId = some event ∧ event.id = eventId := by
  obtain ⟨event, found⟩ := Option.ne_none_iff_exists'.1 fun absent =>
    known (Ledger.event?_eq_none_iff.1 absent)
  exact ⟨event, found, Ledger.id_of_event? found⟩

theorem fits_of_not_otherEvent (found : l.template? templateId = some template)
    (sameEvent : event.id = eventId)
    (own : ¬Objection.Holds l eventId templateId request .otherEvent) :
    checkEvent template event = .ok () := by
  unfold checkEvent
  cases bound : template.eventId with
  | none => rfl
  | some other =>
      simp only
      rw [if_pos]
      by_contra different
      exact own ⟨template, other, found, bound, sameEvent ▸ different⟩

/-- What is known of a call once the template and the event have been looked up and compared. -/
theorem exists_fitting
    (passed : ∀ objection ∈ Objection.earlier .unreadableId,
      ¬objection.Holds l eventId templateId request) :
    ∃ template event, l.template? templateId = some template ∧ template.requireReady = .ok () ∧
      l.event? eventId = some event ∧ event.id = eventId ∧ checkEvent template event = .ok () := by
  obtain ⟨template, found⟩ := exists_template_of_not_unknown (passed .unknownTemplate (by decide))
  have ready := ready_of_not_unmapped found (passed .unmapped (by decide))
  obtain ⟨event, eventFound, same⟩ := exists_event_of_not_unknown (passed .unknownEvent (by decide))
  exact ⟨template, event, found, ready, eventFound, same,
    fits_of_not_otherEvent found same (passed .otherEvent (by decide))⟩

theorem exists_ids_of_not_unreadableId {raws : List Json}
    (readable : ¬Objection.Holds l eventId templateId (some raws) .unreadableId) :
    ∀ raw ∈ raws, ∃ id, raw.toInteger = .ok id := by
  intro raw member
  by_contra none
  exact readable ⟨raws, rfl, raw, member, not_exists.1 none⟩

end

/-- Ids that can be read and looked up make a selection, which is empty if nobody who is eligible is
asked for. -/
theorem exists_selection
    (readable : ¬Objection.Holds office.ledger eventId templateId request .unreadableId)
    (idsInTables : ∀ raws, request = some raws → ∀ raw ∈ raws, ∀ id, raw.toInteger = .ok id →
      -idBound ≤ id ∧ id < idBound) :
    ∃ participants rejected,
      (select eventId request).perform office = (.ok (participants, rejected), office) ∧
        (participants = [] ↔ Objection.Holds office.ledger eventId templateId request .nobody) := by
  cases request with
  | none =>
      refine ⟨_, _, select_eq_ok_iff.2 (Or.inl ⟨rfl, rfl, rfl⟩), ?_⟩
      rw [List.eq_nil_iff_forall_not_mem]
      constructor
      · exact fun nobody r member ofEvent eligible =>
          absurd (Ledger.mem_eligible.2 ⟨member, ofEvent, eligible⟩) (nobody r)
      · intro nobody r member
        obtain ⟨registered, ofEvent, eligible⟩ := Ledger.mem_eligible.1 member
        obtain ⟨raws, impossible, -⟩ := nobody r registered ofEvent eligible
        cases impossible
  | some raws =>
      obtain ⟨ids, read⟩ := exists_requestedIds (exists_ids_of_not_unreadableId readable)
      have inTables : ∀ id ∈ unmet office.ledger eventId ids, -idBound ≤ id ∧ id < idBound := by
        intro id member
        obtain ⟨raw, given, same⟩ := (mem_of_requestedIds read).1 (List.mem_filter.1 member).1
        exact idsInTables raws rfl raw given id same
      refine ⟨_, _, select_eq_ok_iff.2 (Or.inr ⟨raws, ids, rfl, read, rfl, rfl,
        perform_checkIds inTables office⟩), ?_⟩
      unfold asked
      simp only [List.filter_eq_nil_iff, List.contains_iff_mem, mem_of_requestedIds read]
      constructor
      · intro nobody r member ofEvent eligible
        refine ⟨raws, rfl, fun raw given same => ?_⟩
        exact nobody r (Ledger.mem_eligible.2 ⟨member, ofEvent, eligible⟩) ⟨raw, given, same⟩
      · rintro nobody r member ⟨raw, given, same⟩
        obtain ⟨registered, ofEvent, eligible⟩ := Ledger.mem_eligible.1 member
        obtain ⟨_, again, unasked⟩ := nobody r registered ofEvent eligible
        cases again
        exact unasked raw given same

/-- The first requested value that is no id is reported. -/
theorem select_of_unreadableId
    (unreadable : Objection.Holds office.ledger eventId templateId request .unreadableId) :
    ∃ failure, Objection.Reports office.ledger eventId templateId request .unreadableId failure ∧
      (select eventId request).perform office = (.error failure, office) := by
  obtain ⟨raws, rfl, some⟩ := unreadable
  obtain ⟨before, raw, after, rfl, noId, earlier⟩ := exists_first some
  have readable : ∀ first ∈ before, ∃ id, first.toInteger = .ok id := fun first inFront =>
    not_forall_not.1 (earlier first inFront)
  cases fault : raw.toInteger with
  | ok id => exact absurd fault (noId id)
  | error fault' =>
      cases fault' with
      | unusable =>
          refine ⟨_, .unusable before after raw rfl readable fault, ?_⟩
          apply perform_select_of_error
          apply requestedIds_of_split readable
          unfold requestedId
          rw [fault]
      | unbounded =>
          refine ⟨_, .unbounded before after raw rfl readable fault, ?_⟩
          apply perform_select_of_error
          apply requestedIds_of_split readable
          unfold requestedId
          rw [fault]
          rfl

end Batch

/-- The office with other stores, another supply of codes, and other mishaps to come. -/
def Office.amid (office : Office) (vault : Storage.Vault Content) (codes : CodeSupply)
    (disturbances : List (String × Disturbance)) : Office :=
  { office with vault, codes, disturbances }

namespace Batch

section

variable {options : Options} {eventId templateId : Int} {request : Option (List Json)}
  {office : Office}

/-- An objection is reported if no earlier one holds, and the office stays as it is. -/
theorem refused_of_holds (templateInTables : -idBound ≤ templateId ∧ templateId < idBound)
    (eventInTables : -idBound ≤ eventId ∧ eventId < idBound)
    (idsInTables : ∀ raws, request = some raws → ∀ raw ∈ raws, ∀ id, raw.toInteger = .ok id →
      -idBound ≤ id ∧ id < idBound) {objection : Objection}
    (holds : objection.Holds office.ledger eventId templateId request)
    (first : ∀ other ∈ objection.earlier, ¬other.Holds office.ledger eventId templateId request) :
    ∃ failure, Objection.Reports office.ledger eventId templateId request objection failure ∧
      (run options eventId templateId request).perform office = (.error failure, office) := by
  cases objection with
  | unknownTemplate =>
      exact ⟨_, .unknownTemplate,
        run_of_unknownTemplate templateInTables (Ledger.template?_eq_none_iff.2 holds)⟩
  | unmapped =>
      obtain ⟨t, found, p, listed, toNothing⟩ := holds
      rcases t.requireReady_cases with ⟨-, none⟩ | ⟨unready, -⟩
      · have missing := Template.mem_missing.2 ⟨listed, toNothing⟩
        rw [none] at missing
        cases missing
      · exact ⟨_, .unmapped t found, run_of_unready templateInTables found unready⟩
  | unknownEvent =>
      obtain ⟨t, found⟩ := exists_template_of_not_unknown (first .unknownTemplate (by decide))
      have ready := ready_of_not_unmapped found (first .unmapped (by decide))
      exact ⟨_, .unknownEvent, run_of_unknownEvent templateInTables found ready eventInTables
        (Ledger.event?_eq_none_iff.2 holds)⟩
  | otherEvent =>
      obtain ⟨t, other, found, bound, different⟩ := holds
      have ready := ready_of_not_unmapped found (first .unmapped (by decide))
      obtain ⟨event, eventFound, rfl⟩ :=
        exists_event_of_not_unknown (first .unknownEvent (by decide))
      have misfit : checkEvent t event =
          .error (.request (.otherEvent templateId other event.id)) := by
        unfold checkEvent
        simp only [bound, if_neg different, Ledger.id_of_template? found]
      exact ⟨_, .otherEvent t other found bound,
        run_of_misfit templateInTables found ready eventInTables eventFound misfit⟩
  | unreadableId =>
      obtain ⟨t, event, found, ready, eventFound, rfl, fits⟩ := exists_fitting first
      obtain ⟨failure, reported, refused⟩ := select_of_unreadableId holds
      exact ⟨failure, reported, run_of_unselected templateInTables found ready eventInTables
        eventFound fits refused⟩
  | nobody =>
      obtain ⟨t, event, found, ready, eventFound, rfl, fits⟩ :=
        exists_fitting fun other isEarlier => first other (List.mem_append_left _ isEarlier)
      obtain ⟨participants, rejected, selected, none⟩ :=
        exists_selection (first .unreadableId (by decide)) idsInTables
      rw [none.2 holds] at selected
      exact ⟨_, .nobody,
        run_of_nobody templateInTables found ready eventInTables eventFound fits selected⟩

/-- If an objection holds, there is one that holds and is met before all others that do. -/
theorem Objection.exists_first_of_holds {objection : Objection}
    (holds : objection.Holds office.ledger eventId templateId request) :
    ∃ first : Objection, first.Holds office.ledger eventId templateId request ∧
      ∀ other ∈ first.earlier, ¬other.Holds office.ledger eventId templateId request := by
  have member : objection ∈ inOrder := by cases objection <;> decide
  obtain ⟨before, first, after, split, here, none⟩ := exists_first ⟨objection, member, holds⟩
  have apart : ∀ other ∈ before, decide (other ≠ first) = true := by
    intro other inFront
    refine decide_eq_true ?_
    rintro rfl
    exact none other inFront here
  have same : first.earlier = before := by
    rw [earlier, split, List.takeWhile_append_of_pos apart,
      List.takeWhile_cons_of_neg (by simp), List.append_nil]
  exact ⟨first, here, same ▸ none⟩

/-- Without objection the turns of all participants are taken, if what the template is drawn from
can be told. -/
theorem run_of_no_objection (templateInTables : -idBound ≤ templateId ∧ templateId < idBound)
    (eventInTables : -idBound ≤ eventId ∧ eventId < idBound)
    (idsInTables : ∀ raws, request = some raws → ∀ raw ∈ raws, ∀ id, raw.toInteger = .ok id →
      -idBound ≤ id ∧ id < idBound)
    (drawable : ∀ t ∈ office.ledger.templates, ∃ source, t.source = .ok source)
    (unobjected : ∀ objection : Objection, ¬objection.Holds office.ledger eventId templateId request) :
    ∃ template event source participants rejected,
      Opened options eventId templateId request office template event source participants
          rejected ∧
        participants ≠ [] ∧
        (run options eventId templateId request).perform office =
          (.ok ((turns (options.commission template event source)
              (office.ledger.nextSerial event.id) participants office).map
                (Turn.result (options.commission template event source)) ++ rejected),
            (issueAll (options.commission template event source)
              (office.ledger.nextSerial event.id) participants office).2) := by
  obtain ⟨template, event, found, ready, eventFound, rfl, fits⟩ :=
    exists_fitting fun other _ => unobjected other
  obtain ⟨participants, rejected, selected, empty⟩ :=
    exists_selection (unobjected .unreadableId) idsInTables
  obtain ⟨source, drawnFrom⟩ := drawable template (Ledger.mem_of_template? found)
  have opened : Opened options event.id templateId request office template event source participants
      rejected := ⟨found, ready, eventFound, fits, selected, drawnFrom⟩
  have someone : participants ≠ [] := fun nobody => unobjected .nobody (empty.1 nobody)
  exact ⟨template, event, source, participants, rejected, opened, someone,
    opened.perform_run_eq templateInTables eventInTables someone⟩

end

/-- A batch is refused if an objection to it holds, for the first one that does and without any
change; otherwise it runs to its end and has a result for every participant, whatever the stores,
the supply of codes and the mishaps to come do to single participants. -/
theorem refused_by_first_objection {office : Office} (reachable : office.IsReachable)
    (options : Options) {eventId templateId : Int}
    (templateInTables : -idBound ≤ templateId ∧ templateId < idBound)
    (eventInTables : -idBound ≤ eventId ∧ eventId < idBound) {request : Option (List Json)}
    (idsInTables : ∀ raws, request = some raws → ∀ raw ∈ raws, ∀ id, raw.toInteger = .ok id →
      -idBound ≤ id ∧ id < idBound)
    (vault : Storage.Vault Content) (codes : CodeSupply)
    (disturbances : List (String × Disturbance)) :
    ((∃ failure later, (run options eventId templateId request).perform
          (office.amid vault codes disturbances) = (.error failure, later)) ↔
        ∃ objection : Objection, objection.Holds office.ledger eventId templateId request) ∧
      (∀ objection : Objection, objection.Holds office.ledger eventId templateId request →
        (∀ other ∈ objection.earlier, ¬other.Holds office.ledger eventId templateId request) →
        ∃ failure, Objection.Reports office.ledger eventId templateId request objection failure ∧
          (run options eventId templateId request).perform (office.amid vault codes disturbances) =
            (.error failure, office.amid vault codes disturbances)) ∧
      ((∀ objection : Objection, ¬objection.Holds office.ledger eventId templateId request) →
        ∃ template event source participants rejected later,
          Opened options eventId templateId request (office.amid vault codes disturbances) template
              event source participants rejected ∧
            participants ≠ [] ∧
            (run options eventId templateId request).perform
                (office.amid vault codes disturbances) =
              (.ok ((turns (options.commission template event source)
                  (office.ledger.nextSerial event.id) participants
                  (office.amid vault codes disturbances)).map
                    (Turn.result (options.commission template event source)) ++ rejected),
                later)) := by
  have refusals := fun {objection : Objection}
      (holds : objection.Holds office.ledger eventId templateId request) =>
    @refused_of_holds options eventId templateId request (office.amid vault codes disturbances)
      templateInTables eventInTables idsInTables objection holds
  have runs := @run_of_no_objection options eventId templateId request
    (office.amid vault codes disturbances) templateInTables eventInTables idsInTables
    fun t member => reachable.exists_source member
  refine ⟨⟨?_, ?_⟩, fun objection holds first => refusals holds first, ?_⟩
  · rintro ⟨failure, later, refused⟩
    by_contra none
    obtain ⟨_, _, _, _, _, -, -, done⟩ := runs (not_exists.1 none)
    rw [refused] at done
    cases done
  · rintro ⟨objection, holds⟩
    obtain ⟨first, here, earlier⟩ := Objection.exists_first_of_holds holds
    obtain ⟨failure, -, refused⟩ := refusals here earlier
    exact ⟨failure, _, refused⟩
  · intro none
    obtain ⟨template, event, source, participants, rejected, opened, someone, done⟩ := runs none
    exact ⟨template, event, source, participants, rejected, _, opened, someone, done⟩

end Batch

/-! At the launch, of an unknown event and a value that is no id only the first is reported, and a
batch without objection runs although the store refuses to write. -/

namespace Launch

/-- A store that refuses to write. -/
def fullVault : Storage.Vault Content :=
  .single { Storage.Volume.empty "primary" [] with full := true }

def unread : Batch.Result :=
  ⟨1, some "Ada", .setback
    ⟨.error (.storageUnavailable .artifact "[Errno 28] No space left on device"), .codeAssigned⟩⟩

/-- The template of the launch names no fields and is for any event. -/
theorem exists_plain_template :
    ∃ t, (start.through history).ledger.template? 1 = some t ∧ t.placeholders = [] ∧
      t.eventId = none := by
  have plain : ((start.through history).ledger.template? 1).map
      (fun t => (t.placeholders, t.eventId)) = some ([], none) := by
    decide +kernel
  obtain ⟨t, found, same⟩ := Option.map_eq_some_iff.1 plain
  obtain ⟨placeholders, unbound⟩ := Prod.mk.inj same
  exact ⟨t, found, placeholders, unbound⟩

theorem not_unknownTemplate (eventId : Int) (request : Option (List Json)) :
    ¬Batch.Objection.Holds (start.through history).ledger eventId 1 request .unknownTemplate := by
  intro unknown
  obtain ⟨t, found, -⟩ := exists_plain_template
  exact unknown t (Ledger.mem_of_template? found) (Ledger.id_of_template? found)

theorem not_unmapped (eventId : Int) (request : Option (List Json)) :
    ¬Batch.Objection.Holds (start.through history).ledger eventId 1 request .unmapped := by
  rintro ⟨t, there, p, listed, -⟩
  obtain ⟨u, found, placeholders, -⟩ := exists_plain_template
  cases found.symm.trans there
  rw [placeholders] at listed
  cases listed

theorem no_objection (objection : Batch.Objection) :
    ¬objection.Holds (start.through history).ledger 1 1 none := by
  cases objection with
  | unknownTemplate => exact not_unknownTemplate 1 none
  | unmapped => exact not_unmapped 1 none
  | unknownEvent =>
      intro unknown
      have first : (start.through history).ledger.events.map (·.id) = [1] := rfl
      obtain ⟨e, member, same⟩ := List.mem_map.1 (first ▸ List.mem_singleton_self (1 : Int))
      exact unknown e member same
  | otherEvent =>
      rintro ⟨t, other, there, bound, -⟩
      obtain ⟨u, found, -, unbound⟩ := exists_plain_template
      cases found.symm.trans there
      cases unbound.symm.trans bound
  | unreadableId =>
      rintro ⟨raws, impossible, -⟩
      cases impossible
  | nobody =>
      intro nobody
      have eligible : (start.through history).ledger.isEligible guest = true := by decide +kernel
      have registrations : (start.through history).ledger.registrations = [guest] := rfl
      have member : guest ∈ (start.through history).ledger.registrations :=
        registrations ▸ List.mem_singleton_self guest
      obtain ⟨raws, impossible, -⟩ := nobody guest member rfl eligible
      cases impossible

end Launch

theorem launch_refused_by_first_objection :
    (Batch.Objection.Holds (Launch.start.through Launch.history).ledger 2 1 (some [.str "one"])
          .unreadableId ∧
        (Batch.run Launch.options 2 1 (some [.str "one"])).perform
            (Launch.start.through Launch.history) =
          (.error (.error (.eventNotFound 2)), Launch.start.through Launch.history)) ∧
      ∃ later, (Batch.run Launch.options 1 1 none).perform
          ((Launch.start.through Launch.history).amid Launch.fullVault (.stream [] 0) []) =
        (.ok [Launch.unread], later) := by
  have reported : ((Batch.run Launch.options 1 1 none).perform
      ((Launch.start.through Launch.history).amid Launch.fullVault (.stream [] 0) [])).1 =
        .ok [Launch.unread] := by
    decide +kernel
  have noInteger : Json.toInteger (.str "one") = .error .unusable := by decide +kernel
  have events : (Launch.start.through Launch.history).ledger.events = Launch.circumstances.events :=
    rfl
  have reachable := Launch.isReachable_through_history
  have known := Launch.not_unknownTemplate
  have mapped := Launch.not_unmapped
  have unobjected := Launch.no_objection
  generalize Launch.start.through Launch.history = office at *
  constructor
  · refine ⟨⟨_, rfl, _, List.mem_singleton_self _, ?_⟩, ?_⟩
    · rw [noInteger]
      exact fun _ impossible => nomatch impossible
    · have refused := (@Batch.refused_by_first_objection office reachable Launch.options 2 1
        (by decide) (by decide) (some [.str "one"]) ?_ office.vault office.codes
        office.disturbances).2.1 .unknownEvent ?_ ?_
      · obtain ⟨failure, reports, done⟩ := refused
        cases reports
        exact done
      · rintro raws same raw member id read
        cases same
        rw [List.mem_singleton.1 member, noInteger] at read
        cases read
      · intro e member
        rw [events] at member
        rw [List.mem_singleton.1 member]
        decide
      · intro other isEarlier
        have cases : other = .unknownTemplate ∨ other = .unmapped := by
          simpa [Batch.Objection.earlier, Batch.Objection.inOrder] using isEarlier
        rcases cases with rfl | rfl
        · exact known _ _
        · exact mapped _ _
  · obtain ⟨template, event, source, participants, rejected, later, -, -, done⟩ :=
      (@Batch.refused_by_first_objection office reachable Launch.options 1 1 (by decide) (by decide)
        none (fun raws impossible => nomatch impossible) Launch.fullVault (.stream [] 0) []).2.2
        unobjected
    have same := congrArg Prod.fst done
    rw [reported] at same
    exact ⟨later, done.trans (congrArg (Prod.mk · later) same.symm)⟩

end Issuance
