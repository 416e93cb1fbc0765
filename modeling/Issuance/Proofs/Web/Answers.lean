import Issuance.Proofs.Batch.Refusals
import Issuance.Proofs.Mail.Isolation
import Issuance.Web.Service
/-!
How the requests for a batch and for mailing are answered, whatever their bodies hold.

The answer is a report or an error of the engine, except for integers that overflow: a number
without bounds where an id is expected, or an id that no table can hold. The conditions follow the
questions that are asked in turn, so that an overflow counts only if no earlier question is answered
by an error.
-/

namespace Issuance

/-- The first of the values that is no integer, and why. -/
def IsFirstFault (raws : List Json) (raw : Json) (fault : Json.IntegerFault) : Prop :=
  ∃ before after, raws = before ++ raw :: after ∧
    (∀ other ∈ before, ∃ id, other.toInteger = .ok id) ∧ raw.toInteger = .error fault

/-- All values are integers, or there is a first one that is none. -/
theorem readable_or_isFirstFault (raws : List Json) :
    (∀ raw ∈ raws, ∃ id, raw.toInteger = .ok id) ∨ ∃ raw fault, IsFirstFault raws raw fault := by
  by_cases some : ∃ raw ∈ raws, ∀ id, raw.toInteger ≠ .ok id
  · obtain ⟨before, raw, after, split, none, earlier⟩ := exists_first some
    cases read : raw.toInteger with
    | ok id => exact absurd read (none id)
    | error fault =>
        refine Or.inr ⟨raw, fault, before, after, split, fun other member => ?_, read⟩
        exact not_forall_not.1 (earlier other member)
  · refine Or.inl fun raw member => ?_
    by_contra none
    exact some ⟨raw, member, not_exists.1 none⟩

/-- The failure of a number without bounds. -/
def boundless : Failure := .defect (.overflow "cannot convert float infinity to integer")

theorem perform_requireTemplate_of_outside {id : Int} (outside : ¬IsInTables id) (office : Office) :
    (requireTemplate id).perform office = (.error idTooLarge, office) :=
  Work.perform_bind_of_error (perform_checkId_of_outside outside office) _

theorem perform_requireEvent_of_outside {id : Int} (outside : ¬IsInTables id) (office : Office) :
    (requireEvent id).perform office = (.error idTooLarge, office) :=
  Work.perform_bind_of_error (perform_checkId_of_outside outside office) _

namespace Batch

variable {options : Options} {eventId templateId : Int} {request : Option (List Json)}
  {office : Office}

theorem requestedIds_of_unusable {raws : List Json} {raw : Json}
    (first : IsFirstFault raws raw .unusable) :
    requestedIds raws = .error (.error (.request (.participantId raw.shown))) := by
  obtain ⟨before, after, rfl, readable, fault⟩ := first
  refine requestedIds_of_split readable ?_
  rw [requestedId, fault]

theorem requestedIds_of_unbounded {raws : List Json} {raw : Json}
    (first : IsFirstFault raws raw .unbounded) : requestedIds raws = .error boundless := by
  obtain ⟨before, after, rfl, readable, fault⟩ := first
  refine requestedIds_of_split readable ?_
  rw [requestedId, fault]
  rfl

/-- The template and the event are there, and they suit each other. -/
structure Suits (l : Ledger) (eventId templateId : Int) (template : Template) (event : Event) :
    Prop where
  templateInTables : IsInTables templateId
  templateFound : l.template? templateId = some template
  ready : template.requireReady = .ok ()
  eventInTables : IsInTables eventId
  eventFound : l.event? eventId = some event
  fits : checkEvent template event = .ok ()

/-- An integer of a batch overflows: the id of the template or of the event, the first requested
value that is no id, or an id that is asked for and does not take part. -/
inductive Overflows (l : Ledger) (eventId templateId : Int) (request : Option (List Json)) : Prop
  | template (outside : ¬IsInTables templateId)
  | event {template : Template} (templateInTables : IsInTables templateId)
      (templateFound : l.template? templateId = some template)
      (ready : template.requireReady = .ok ()) (outside : ¬IsInTables eventId)
  | value {template : Template} {event : Event} {raws : List Json} {raw : Json}
      (suits : Suits l eventId templateId template event) (given : request = some raws)
      (first : IsFirstFault raws raw .unbounded)
  | id {template : Template} {event : Event} {raws : List Json} {ids : List Int} {id : Int}
      (suits : Suits l eventId templateId template event) (given : request = some raws)
      (read : requestedIds raws = .ok ids) (absent : id ∈ unmet l eventId ids)
      (outside : ¬IsInTables id)

theorem Suits.event_id {template : Template} {event : Event}
    (suits : Suits office.ledger eventId templateId template event) : event.id = eventId :=
  Ledger.id_of_event? suits.eventFound

theorem Suits.run_of_unselected {template : Template} {event : Event}
    (suits : Suits office.ledger eventId templateId template event) {failure : Failure}
    (refused : (select eventId request).perform office = (.error failure, office)) :
    (run options eventId templateId request).perform office = (.error failure, office) :=
  Batch.run_of_unselected suits.templateInTables suits.templateFound suits.ready
    suits.eventInTables suits.eventFound suits.fits (suits.event_id.symm ▸ refused)

theorem run_of_overflows (overflows : Overflows office.ledger eventId templateId request) :
    ∃ text, (run options eventId templateId request).perform office =
      (.error (.defect (.overflow text)), office) := by
  cases overflows with
  | template outside =>
      exact ⟨_, Work.perform_bind_of_error (perform_requireTemplate_of_outside outside office) _⟩
  | event templateInTables templateFound ready outside =>
      refine ⟨"integer too large for a table", ?_⟩
      unfold run
      rw [Work.perform_bind_of_ok (perform_requireTemplate templateInTables templateFound), ready,
        Work.perform_bind_of_ok (Work.perform_ofError (.ok ()) office)]
      exact Work.perform_bind_of_error (perform_requireEvent_of_outside outside office) _
  | value suits given first =>
      subst given
      exact ⟨_, suits.run_of_unselected
        (perform_select_of_error (requestedIds_of_unbounded first) eventId office)⟩
  | id suits given read absent outside =>
      subst given
      have refused := perform_select read eventId office
      rw [perform_checkIds_of_outside absent outside office] at refused
      exact ⟨_, suits.run_of_unselected refused⟩

/-- Who is selected can be told unless an id overflows or a value is unusable. -/
theorem select_ends {template : Template} {event : Event}
    (suits : Suits office.ledger eventId templateId template event)
    (within : ¬Overflows office.ledger eventId templateId request) :
    (∃ e, (select eventId request).perform office = (.error (.error e), office)) ∨
      ∃ participants rejected,
        (select eventId request).perform office = (.ok (participants, rejected), office) := by
  cases request with
  | none => exact Or.inr ⟨_, _, rfl⟩
  | some raws =>
      rcases readable_or_isFirstFault raws with readable | ⟨raw, fault, first⟩
      · obtain ⟨ids, read⟩ := exists_requestedIds readable
        have inTables : ∀ id ∈ unmet office.ledger eventId ids, IsInTables id := by
          intro id absent
          by_contra outside
          exact within (.id suits rfl read absent outside)
        have selected := perform_select read eventId office
        rw [perform_checkIds inTables] at selected
        exact Or.inr ⟨_, _, selected⟩
      · cases fault with
        | unusable =>
            exact Or.inl ⟨_, perform_select_of_error (requestedIds_of_unusable first) _ _⟩
        | unbounded => exact absurd (.value suits rfl first) within

/-- Without an overflow a batch reports its results or an error of the engine. -/
theorem run_ends (drawable : ∀ t ∈ office.ledger.templates, ∃ source, t.source = .ok source)
    (within : ¬Overflows office.ledger eventId templateId request) :
    (∃ results later, (run options eventId templateId request).perform office =
        (.ok results, later)) ∨
      ∃ e, (run options eventId templateId request).perform office =
        (.error (.error e), office) := by
  by_cases templateInTables : IsInTables templateId
  swap
  · exact absurd (.template templateInTables) within
  cases templateFound : office.ledger.template? templateId with
  | none => exact Or.inr ⟨_, run_of_unknownTemplate templateInTables templateFound⟩
  | some template =>
      cases ready : template.requireReady with
      | error e => exact Or.inr ⟨e, run_of_unready templateInTables templateFound ready⟩
      | ok _ =>
          by_cases eventInTables : IsInTables eventId
          swap
          · exact absurd (.event templateInTables templateFound ready eventInTables) within
          cases eventFound : office.ledger.event? eventId with
          | none =>
              exact Or.inr ⟨_, run_of_unknownEvent templateInTables templateFound ready
                eventInTables eventFound⟩
          | some event =>
              cases fits : checkEvent template event with
              | error e =>
                  exact Or.inr ⟨e, run_of_misfit templateInTables templateFound ready
                    eventInTables eventFound fits⟩
              | ok _ =>
                  have suits : Suits office.ledger eventId templateId template event :=
                    ⟨templateInTables, templateFound, ready, eventInTables, eventFound, fits⟩
                  rcases select_ends suits within with ⟨e, refused⟩ |
                    ⟨participants, rejected, selected⟩
                  · exact Or.inr ⟨e, suits.run_of_unselected refused⟩
                  · rw [← suits.event_id] at selected
                    by_cases nobody : participants = []
                    · subst nobody
                      exact Or.inr ⟨_, run_of_nobody templateInTables templateFound ready
                        eventInTables eventFound fits selected⟩
                    · obtain ⟨source, drawnFrom⟩ :=
                        drawable template (Ledger.mem_of_template? templateFound)
                      have opened : Opened options eventId templateId request office template event
                          source participants rejected :=
                        ⟨templateFound, ready, eventFound, fits, selected, drawnFrom⟩
                      exact Or.inl (opened.exists_run templateInTables eventInTables
                        (List.isEmpty_eq_false_iff.2 nobody))

end Batch

namespace Mail

variable {eventId : Int} {request : Option (List Json)} {address : VerifyAddress}
  {message : Option String} {office : Office}

/-- What a request is refused with by the first value that is no id. -/
def idFailure : Json.IntegerFault → Failure
  | .unusable => .error (.request (.notIntegers "certificateIds"))
  | .unbounded => boundless

theorem requestedCertificates_eq_error {raws : List Json} {raw : Json} {fault : Json.IntegerFault}
    (first : IsFirstFault raws raw fault) :
    requestedCertificates raws = .error (idFailure fault) := by
  obtain ⟨before, after, rfl, readable, unread⟩ := first
  unfold requestedCertificates
  refine mapM_eq_error (fun other member => ?_) ?_
  · obtain ⟨id, read⟩ := readable other member
    exact ⟨id, by rw [read]⟩
  · rw [unread]
    cases fault <;> rfl

theorem exists_requestedCertificates {raws : List Json}
    (readable : ∀ raw ∈ raws, ∃ id, raw.toInteger = .ok id) :
    ∃ ids, requestedCertificates raws = .ok ids := by
  unfold requestedCertificates
  induction raws with
  | nil => exact ⟨[], rfl⟩
  | cons raw rest ih =>
      obtain ⟨id, read⟩ := readable raw List.mem_cons_self
      obtain ⟨ids, others⟩ := ih fun other member =>
        readable other (List.mem_cons_of_mem raw member)
      refine ⟨id :: ids, ?_⟩
      rw [List.mapM_cons, read, others]
      rfl

/-- An integer of a request for mailing overflows: the id of the event, the first requested value
that is no id, or any id that is asked for. -/
inductive Overflows (l : Ledger) (eventId : Int) (request : Option (List Json)) : Prop
  | event (outside : ¬IsInTables eventId)
  | value {event : Event} {raws : List Json} {raw : Json} (eventInTables : IsInTables eventId)
      (eventFound : l.event? eventId = some event) (given : request = some raws)
      (first : IsFirstFault raws raw .unbounded)
  | id {event : Event} {raws : List Json} {ids : List Int} {id : Int}
      (eventInTables : IsInTables eventId) (eventFound : l.event? eventId = some event)
      (given : request = some raws) (read : requestedCertificates raws = .ok ids)
      (asked : id ∈ ids) (outside : ¬IsInTables id)

theorem perform_chosen_of_error {raws : List Json} {failure : Failure}
    (refused : requestedCertificates raws = .error failure) (office : Office) :
    (chosen eventId (some raws)).perform office = (.error failure, office) := by
  unfold chosen
  rw [Work.perform_bind_of_ok (Work.perform_ledger office)]
  simp only [refused]
  exact Work.perform_bind_of_error (Work.perform_ofFailure (.error failure) office) _

theorem notify_of_overflows (overflows : Overflows office.ledger eventId request) :
    ∃ text, (notify eventId address request message).perform office =
      (.error (.defect (.overflow text)), office) := by
  cases overflows with
  | event outside =>
      exact ⟨_, Work.perform_bind_of_error (perform_requireEvent_of_outside outside office) _⟩
  | value eventInTables eventFound given first =>
      subst given
      refine ⟨"cannot convert float infinity to integer", ?_⟩
      rw [perform_notify_of_event eventInTables eventFound]
      exact Work.perform_bind_of_error
        (perform_chosen_of_error (requestedCertificates_eq_error first) office) _
  | id eventInTables eventFound given read asked outside =>
      subst given
      refine ⟨"integer too large for a table", ?_⟩
      rw [perform_notify_of_event eventInTables eventFound]
      exact Work.perform_bind_of_error (perform_chosen_of_outside read asked outside office) _

/-- Which certificates are chosen can be told unless an id overflows or a value is unusable. -/
theorem chosen_ends {event : Event} (eventInTables : IsInTables eventId)
    (eventFound : office.ledger.event? eventId = some event)
    (within : ¬Overflows office.ledger eventId request) :
    (∃ e, (chosen eventId request).perform office = (.error (.error e), office)) ∨
      ∃ certificates, (chosen eventId request).perform office = (.ok certificates, office) ∧
        certificates ⊆ office.ledger.certificatesOf eventId := by
  cases request with
  | none => exact Or.inr ⟨_, rfl, List.Subset.refl _⟩
  | some raws =>
      rcases readable_or_isFirstFault raws with readable | ⟨raw, fault, first⟩
      · obtain ⟨ids, read⟩ := exists_requestedCertificates readable
        have inTables : ∀ id ∈ ids, IsInTables id := by
          intro id asked
          by_contra outside
          exact within (.id eventInTables eventFound rfl read asked outside)
        exact Or.inr ⟨_, perform_chosen_of_read read inTables office, List.filter_sublist.subset⟩
      · cases fault with
        | unusable =>
            exact Or.inl ⟨_, perform_chosen_of_error (requestedCertificates_eq_error first) office⟩
        | unbounded => exact absurd (.value eventInTables eventFound rfl first) within

/-- Without an overflow, and if every letter comes to an outcome, mailing reports its entries or an
error of the engine. -/
theorem notify_ends
    (quiet : ∀ event, office.ledger.event? eventId = some event →
      ∀ c ∈ office.ledger.certificatesOf eventId, IsQuiet office event address message c)
    (within : ¬Overflows office.ledger eventId request) :
    (∃ entries later, (notify eventId address request message).perform office =
        (.ok entries, later)) ∨
      ∃ e, (notify eventId address request message).perform office =
        (.error (.error e), office) := by
  by_cases eventInTables : IsInTables eventId
  swap
  · exact absurd (.event eventInTables) within
  cases eventFound : office.ledger.event? eventId with
  | none =>
      have asked : (requireEvent eventId).perform office =
          (.error (.error (.eventNotFound eventId)), office) := by
        unfold requireEvent
        rw [Work.perform_bind_of_ok (perform_checkId eventInTables office),
          Work.perform_bind_of_ok (Work.perform_ledger office), eventFound]
        rfl
      exact Or.inr ⟨_, Work.perform_bind_of_error asked _⟩
  | some event =>
      rw [perform_notify_of_event eventInTables eventFound]
      rcases chosen_ends eventInTables eventFound within with
        ⟨e, refused⟩ | ⟨certificates, selected, ofEvent⟩
      · exact Or.inr ⟨e, Work.perform_bind_of_error refused _⟩
      · obtain ⟨entries, later, done, -⟩ := perform_mailAll_of_quiet fun c member =>
          quiet event eventFound c (ofEvent member)
        exact Or.inl ⟨entries, later, (Work.perform_bind_of_ok selected _).trans done⟩

end Mail

namespace Web

variable {r : Request} {office : Office}

theorem perform_fst (work : Work Response) (office : Office) :
    (perform work office).1 = match (work.perform office).1 with
      | .ok response => response
      | .error failure => failureResponse failure := by
  unfold perform
  change (match work.perform office with
    | (.ok response, office) => (response, office)
    | (.error failure, office) => (failureResponse failure, office)).1 = _
  cases work.perform office with
  | mk result later => cases result <;> rfl

theorem respond_of_posted {resource : Resource} {work : Work Response} (posted : r.method = "POST")
    (meant : Resource.ofSegments? r.target.segments = some resource)
    (handled : handle? r resource = some work) : respond r office = perform work office := by
  unfold respond
  simp only [meant, posted, handled]
  rfl

theorem handle?_generation (posted : r.method = "POST") (event : Nat) :
    handle? r (.generation event) = some (generate r event) := if_pos posted

theorem handle?_mailing (posted : r.method = "POST") (event : Nat) :
    handle? r (.mailing event) = some (mailCertificates r event) := if_pos posted

/-- A report, or an error of the engine with its payload. -/
def EndsWell (response : Response) : Prop :=
  (∃ members, response = answer members 200) ∨ ∃ e, response = failureResponse (.error e)

theorem not_endsWell_bare : ¬EndsWell (bare 500) := by
  rintro (⟨members, same⟩ | ⟨e, same⟩)
  · cases congrArg Response.body same
  · cases congrArg Response.body same

theorem endsWell_of_error {work : Work Response} {office later : Office} {e : Error}
    (failed : work.perform office = (.error (.error e), later)) :
    EndsWell (perform work office).1 := by
  rw [perform_fst, failed]
  exact Or.inr ⟨e, rfl⟩

theorem endsWell_of_answer {work : Work Response} {office later : Office}
    {members : List (String × Json)}
    (done : work.perform office = (.ok (answer members 200), later)) :
    EndsWell (perform work office).1 := by
  rw [perform_fst, done]
  exact Or.inl ⟨members, rfl⟩

/-- A body asks for certificates from a template, and perhaps for certain participants. -/
def AsksBatch (r : Request) (templateId : Int) (request : Option (List Json)) : Prop :=
  ∃ members, r.members = some members ∧
    optionalInteger (members.getOrNull "templateId") "templateId" = .ok (some templateId) ∧
    optionalList (members.getOrNull "participantIds") "participantIds" = .ok request

/-- A body asks for mail, perhaps with certain certificates and a message. -/
def AsksMail (r : Request) (request : Option (List Json)) (message : Option String) : Prop :=
  ∃ members text, r.members = some members ∧
    optionalList (members.getOrNull "certificateIds") "certificateIds" = .ok request ∧
    optionalText (members.getOrNull "message") "message" = .ok text ∧
    message = (text.map Text.trim).filter (!·.isEmpty)

/-- An integer overflows in a request for a batch: the id of the template is a number without
bounds, or the batch that is asked for overflows. -/
inductive BatchOverflows (l : Ledger) (event : Nat) (r : Request) : Prop
  | templateId {members : Json} (given : r.members = some members)
      (unbounded : (members.getOrNull "templateId").toInteger = .error .unbounded)
  | batch {templateId : Int} {request : Option (List Json)}
      (asks : AsksBatch r templateId request)
      (overflows : Batch.Overflows l event templateId request)

/-- An integer overflows in a request for mail. -/
def MailOverflows (l : Ledger) (event : Nat) (r : Request) : Prop :=
  ∃ request message, AsksMail r request message ∧ Mail.Overflows l event request

theorem perform_requireMembers {members : Json} (given : r.members = some members)
    (office : Office) : (requireMembers r).perform office = (.ok members, office) := by
  unfold requireMembers
  rw [given]
  rfl

theorem perform_requireMembers_of_none (none : r.members = none) (office : Office) :
    (requireMembers r).perform office = (.error (.error (.request .notObject)), office) := by
  unfold requireMembers
  rw [none]
  rfl

theorem perform_generate {templateId : Int} {request : Option (List Json)}
    (asks : AsksBatch r templateId request) (event : Nat) (office : Office) :
    (generate r event).perform office =
      (Batch.run (batchOptions office) event templateId request >>= fun results =>
        pure (answer (Batch.toMembers results) 200)).perform office := by
  obtain ⟨members, given, template, participants⟩ := asks
  unfold generate
  rw [Work.perform_bind_of_ok (perform_requireMembers given office), template,
    Work.perform_bind_of_ok (Work.perform_ofFailure (.ok (some templateId)) office)]
  simp only
  rw [participants, Work.perform_bind_of_ok (Work.perform_ofError (.ok request) office),
    Work.perform_bind_of_ok (Work.perform_get office)]

theorem perform_mailCertificates {request : Option (List Json)} {message : Option String}
    (asks : AsksMail r request message) (event : Nat) (office : Office) :
    (mailCertificates r event).perform office =
      (Mail.notify event (.ofSetting office.settings.verifyBase) request message >>= fun entries =>
        pure (answer (Mail.entriesJson entries) 200)).perform office := by
  obtain ⟨members, text, given, listed, texted, rfl⟩ := asks
  unfold mailCertificates
  rw [Work.perform_bind_of_ok (perform_requireMembers given office), listed,
    Work.perform_bind_of_ok (Work.perform_ofError (.ok request) office), texted,
    Work.perform_bind_of_ok (Work.perform_ofError (.ok text) office),
    Work.perform_bind_of_ok (Work.perform_get office)]

theorem optionalInteger_of_unbounded {raw : Json} (unbounded : raw.toInteger = .error .unbounded)
    (field : String) : optionalInteger raw field = .error boundless := by
  have notEmpty : Json.toInteger (.str "") = .error .unusable := by decide +kernel
  unfold optionalInteger
  split
  · cases unbounded
  · rw [notEmpty] at unbounded
    cases unbounded
  · rw [unbounded]
    rfl

theorem optionalInteger_of_unusable {raw : Json} (unusable : raw.toInteger = .error .unusable)
    (field : String) :
    optionalInteger raw field = .ok none ∨
      optionalInteger raw field = .error (.error (.request (.notInteger field))) := by
  unfold optionalInteger
  split
  · exact Or.inl rfl
  · exact Or.inl rfl
  · rw [unusable]
    exact Or.inr rfl

theorem exists_optionalInteger {raw : Json} {id : Int} (read : raw.toInteger = .ok id)
    (field : String) : ∃ id?, optionalInteger raw field = .ok id? := by
  unfold optionalInteger
  split
  · exact ⟨_, rfl⟩
  · exact ⟨_, rfl⟩
  · rw [read]
    exact ⟨_, rfl⟩

/-- A template id that is no integer is missing or refused. -/
theorem generate_of_unusable {members : Json} (given : r.members = some members)
    (unusable : (members.getOrNull "templateId").toInteger = .error .unusable) (event : Nat)
    (office : Office) :
    ∃ fault, (generate r event).perform office = (.error (.error (.request fault)), office) := by
  unfold generate
  rw [Work.perform_bind_of_ok (perform_requireMembers given office)]
  rcases optionalInteger_of_unusable unusable "templateId" with missing | refused
  · rw [missing, Work.perform_bind_of_ok (Work.perform_ofFailure (.ok none) office)]
    exact ⟨_, rfl⟩
  · rw [refused]
    exact ⟨_, Work.perform_bind_of_error (Work.perform_ofFailure (.error _) office) _⟩

/-- A body that asks for no batch is answered by an error, unless the id of its template is a number
without bounds. -/
theorem generate_of_not_asks (asksNot : ∀ templateId request, ¬AsksBatch r templateId request)
    (within : ∀ members, r.members = some members →
      (members.getOrNull "templateId").toInteger ≠ .error .unbounded) (event : Nat)
    (office : Office) :
    ∃ e, (generate r event).perform office = (.error (.error e), office) := by
  cases given : r.members with
  | none =>
      unfold generate
      exact ⟨_, Work.perform_bind_of_error (perform_requireMembers_of_none given office) _⟩
  | some members =>
      cases read : (members.getOrNull "templateId").toInteger with
      | error fault =>
          cases fault with
          | unusable =>
              obtain ⟨fault, refused⟩ := generate_of_unusable given read event office
              exact ⟨_, refused⟩
          | unbounded => exact absurd read (within members given)
      | ok id =>
          obtain ⟨templateId, template⟩ := exists_optionalInteger read "templateId"
          unfold generate
          rw [Work.perform_bind_of_ok (perform_requireMembers given office), template,
            Work.perform_bind_of_ok (Work.perform_ofFailure (.ok templateId) office)]
          cases templateId with
          | none => exact ⟨_, rfl⟩
          | some templateId =>
              simp only
              cases listed : optionalList (members.getOrNull "participantIds") "participantIds" with
              | error e =>
                  exact ⟨e, Work.perform_bind_of_error (Work.perform_ofError (.error e) office) _⟩
              | ok request => exact absurd ⟨members, given, template, listed⟩ (asksNot _ _)

theorem mailCertificates_of_not_asks (asksNot : ∀ request message, ¬AsksMail r request message)
    (event : Nat) (office : Office) :
    ∃ e, (mailCertificates r event).perform office = (.error (.error e), office) := by
  unfold mailCertificates
  cases given : r.members with
  | none =>
      exact ⟨_, Work.perform_bind_of_error (perform_requireMembers_of_none given office) _⟩
  | some members =>
      rw [Work.perform_bind_of_ok (perform_requireMembers given office)]
      cases listed : optionalList (members.getOrNull "certificateIds") "certificateIds" with
      | error e =>
          exact ⟨e, Work.perform_bind_of_error (Work.perform_ofError (.error e) office) _⟩
      | ok request =>
          rw [Work.perform_bind_of_ok (Work.perform_ofError (.ok request) office)]
          cases texted : optionalText (members.getOrNull "message") "message" with
          | error e =>
              exact ⟨e, Work.perform_bind_of_error (Work.perform_ofError (.error e) office) _⟩
          | ok text => exact absurd ⟨members, text, given, listed, texted, rfl⟩ (asksNot _ _)

theorem generate_of_batchOverflows {event : Nat}
    (overflows : BatchOverflows office.ledger event r) :
    (perform (generate r event) office).1 = bare 500 := by
  have broken : ∃ text, (generate r event).perform office =
      (.error (.defect (.overflow text)), office) := by
    cases overflows with
    | templateId given unbounded =>
        unfold generate
        rw [Work.perform_bind_of_ok (perform_requireMembers given office),
          optionalInteger_of_unbounded unbounded]
        exact ⟨_, Work.perform_bind_of_error (Work.perform_ofFailure (.error boundless) office) _⟩
    | batch asks overflows =>
        obtain ⟨text, broken⟩ := Batch.run_of_overflows overflows
        rw [perform_generate asks]
        exact ⟨text, Work.perform_bind_of_error broken _⟩
  obtain ⟨text, broken⟩ := broken
  rw [perform_fst, broken]
  rfl

theorem mailCertificates_of_mailOverflows {event : Nat}
    (overflows : MailOverflows office.ledger event r) :
    (perform (mailCertificates r event) office).1 = bare 500 := by
  obtain ⟨request, message, asks, overflows⟩ := overflows
  obtain ⟨text, broken⟩ := Mail.notify_of_overflows overflows
  rw [perform_fst, perform_mailCertificates asks, Work.perform_bind_of_error broken]
  rfl

theorem endsWell_generate (reachable : office.IsReachable) {event : Nat}
    (within : ¬BatchOverflows office.ledger event r) :
    EndsWell (perform (generate r event) office).1 := by
  by_cases asks : ∃ templateId request, AsksBatch r templateId request
  · obtain ⟨templateId, request, asks⟩ := asks
    rcases Batch.run_ends (fun t member => reachable.exists_source member)
      (fun overflows => within (.batch asks overflows)) with
      ⟨results, later, done⟩ | ⟨e, refused⟩
    · exact endsWell_of_answer ((perform_generate asks event office).trans
        (Work.perform_bind_of_ok done _))
    · exact endsWell_of_error ((perform_generate asks event office).trans
        (Work.perform_bind_of_error refused _))
  · obtain ⟨e, refused⟩ := generate_of_not_asks
      (fun templateId request given => asks ⟨templateId, request, given⟩)
      (fun members given unbounded => within (.templateId given unbounded)) event office
    exact endsWell_of_error refused

theorem endsWell_mailCertificates {event : Nat}
    (quiet : ∀ e, office.ledger.event? event = some e →
      ∀ c ∈ office.ledger.certificatesOf event, ∀ address message,
        Mail.IsQuiet office e address message c)
    (within : ¬MailOverflows office.ledger event r) :
    EndsWell (perform (mailCertificates r event) office).1 := by
  by_cases asks : ∃ request message, AsksMail r request message
  · obtain ⟨request, message, asks⟩ := asks
    rcases Mail.notify_ends (fun e found c member => quiet e found c member _ message)
      (fun overflows => within ⟨request, message, asks, overflows⟩) with
      ⟨entries, later, done⟩ | ⟨e, refused⟩
    · exact endsWell_of_answer ((perform_mailCertificates asks event office).trans
        (Work.perform_bind_of_ok done _))
    · exact endsWell_of_error ((perform_mailCertificates asks event office).trans
        (Work.perform_bind_of_error refused _))
  · obtain ⟨e, refused⟩ := mailCertificates_of_not_asks
      (fun request message given => asks ⟨request, message, given⟩) event office
    exact endsWell_of_error refused

/-- Whatever the body of a request for a batch or for mail holds, it is answered by a report or by an
error of the engine, just if no integer in it overflows; otherwise by a bare status. Of the ids,
those of no use as integers are refused as invalid requests: a template id at once, the others as
soon as the event, and for a batch the template, have been found to be in order. -/
theorem respond_to_batch_and_mail (reachable : office.IsReachable) (posted : r.method = "POST")
    (event : Nat) :
    (Resource.ofSegments? r.target.segments = some (.generation event) →
      (EndsWell (respond r office).1 ↔ ¬BatchOverflows office.ledger event r) ∧
      (BatchOverflows office.ledger event r → (respond r office).1 = bare 500) ∧
      (∀ members, r.members = some members →
        (members.getOrNull "templateId").toInteger = .error .unusable →
        ∃ fault, (respond r office).1 = failureResponse (.error (.request fault))) ∧
      ∀ templateId template e raws raw, AsksBatch r templateId (some raws) →
        Batch.Suits office.ledger event templateId template e → IsFirstFault raws raw .unusable →
        (respond r office).1 = failureResponse (.error (.request (.participantId raw.shown)))) ∧
    (Resource.ofSegments? r.target.segments = some (.mailing event) →
      ((∀ e, office.ledger.event? event = some e → ∀ c ∈ office.ledger.certificatesOf event,
          ∀ address message, Mail.IsQuiet office e address message c) →
        (EndsWell (respond r office).1 ↔ ¬MailOverflows office.ledger event r)) ∧
      (MailOverflows office.ledger event r → (respond r office).1 = bare 500) ∧
      ∀ e raws raw message, AsksMail r (some raws) message → IsInTables event →
        office.ledger.event? event = some e → IsFirstFault raws raw .unusable →
        (respond r office).1 =
          failureResponse (.error (.request (.notIntegers "certificateIds")))) := by
  constructor
  · intro meant
    have responded := @respond_of_posted r office _ _ posted meant (handle?_generation posted event)
    rw [responded]
    refine ⟨⟨fun ends overflows => ?_, endsWell_generate reachable⟩, generate_of_batchOverflows,
      fun members given unusable => ?_, fun templateId template e raws raw asks suits first => ?_⟩
    · rw [generate_of_batchOverflows overflows] at ends
      exact not_endsWell_bare ends
    · obtain ⟨fault, refused⟩ := generate_of_unusable given unusable event office
      refine ⟨fault, ?_⟩
      rw [perform_fst, refused]
    · have refused : (Batch.run (batchOptions office) event templateId (some raws)).perform office =
          (.error (.error (.request (.participantId raw.shown))), office) :=
        suits.run_of_unselected
          (Batch.perform_select_of_error (Batch.requestedIds_of_unusable first) _ office)
      rw [perform_fst, perform_generate asks, Work.perform_bind_of_error refused]
  · intro meant
    have responded := @respond_of_posted r office _ _ posted meant (handle?_mailing posted event)
    rw [responded]
    refine ⟨fun quiet => ⟨fun ends overflows => ?_, endsWell_mailCertificates quiet⟩,
      mailCertificates_of_mailOverflows, fun e raws raw message asks inTables found first => ?_⟩
    · rw [mailCertificates_of_mailOverflows overflows] at ends
      exact not_endsWell_bare ends
    · have refused : (Mail.notify event (.ofSetting office.settings.verifyBase) (some raws)
          message).perform office =
          (.error (.error (.request (.notIntegers "certificateIds"))), office) := by
        rw [Mail.perform_notify_of_event inTables found]
        exact Work.perform_bind_of_error (Mail.perform_chosen_of_error
          (Mail.requestedCertificates_eq_error first) office) _
      rw [perform_fst, perform_mailCertificates asks, Work.perform_bind_of_error refused]

end Web

/-! Requests at the launch. -/

namespace Launch

/-- A request for a batch of the event. -/
def batchRequest (members : List (String × Json)) : Web.Request :=
  ⟨"POST", ⟨"/certificates/events/1/generate", []⟩, .json (some (.obj members))⟩

/-- A request for mail to the guests of the event. -/
def mailRequest (members : List (String × Json)) : Web.Request :=
  ⟨"POST", ⟨"/certificates/events/1/email", []⟩, .json (some (.obj members))⟩

/-- The number that is read from `Infinity`, and from a number beyond all doubles. -/
def infinity : Json := .number (.double (.infinite false))

theorem batchOverflows_infinity (l : Ledger) :
    Web.BatchOverflows l 1 (batchRequest [("templateId", infinity)]) :=
  .templateId rfl rfl

theorem generation_batchRequest (members : List (String × Json)) :
    Web.Resource.ofSegments? (batchRequest members).target.segments = some (.generation 1) := by
  change Web.Resource.ofSegments? (Web.Target.segments ⟨_, []⟩) = _
  decide +kernel

theorem mailing_mailRequest (members : List (String × Json)) :
    Web.Resource.ofSegments? (mailRequest members).target.segments = some (.mailing 1) := by
  change Web.Resource.ofSegments? (Web.Target.segments ⟨_, []⟩) = _
  decide +kernel

theorem exists_suits :
    ∃ template, Batch.Suits (start.through history).ledger 1 1 template event := by
  obtain ⟨template, found, placeholders, unbound⟩ := exists_plain_template
  have nothing : template.missing = [] := by
    rw [List.eq_nil_iff_forall_not_mem]
    intro p member
    have listed := (Template.mem_missing.1 member).1
    rw [placeholders] at listed
    cases listed
  have ready : template.requireReady = .ok () := by
    rcases template.requireReady_cases with ⟨ready, -⟩ | ⟨-, some⟩
    · exact ready
    · exact absurd nothing some
  refine ⟨template, by decide, found, ready, by decide, by decide +kernel, ?_⟩
  rw [Batch.checkEvent, unbound]

end Launch

theorem launch_responds_to_batch_and_mail :
    Web.EndsWell (Web.respond (Launch.batchRequest [("templateId", .int 1)])
        (Launch.start.through Launch.history)).1 ∧
      (Web.respond (Launch.batchRequest [("templateId", Launch.infinity)])
        (Launch.start.through Launch.history)).1 = Web.bare 500 ∧
      (Web.respond (Launch.batchRequest [("templateId", .int 1),
          ("participantIds", .arr [.int 1, .str "one"])])
        (Launch.start.through Launch.history)).1 =
          Web.failureResponse (.error (.request (.participantId (Json.str "one").shown))) ∧
      (Web.respond (Launch.mailRequest [("certificateIds", .arr [.null])])
        (Launch.start.through Launch.history)).1 =
          Web.failureResponse (.error (.request (.notIntegers "certificateIds"))) := by
  have reachable := Launch.isReachable_through_history
  have generation := Launch.generation_batchRequest
  have eventFound : (Launch.start.through Launch.history).ledger.event? 1 = some Launch.event := by
    decide +kernel
  obtain ⟨template, suits⟩ := Launch.exists_suits
  have answers := fun members =>
    (Web.respond_to_batch_and_mail reachable rfl 1).1 (generation members)
  generalize Launch.start.through Launch.history = office at *
  have noInteger : Json.toInteger (.str "one") = .error .unusable := by decide +kernel
  refine ⟨(answers _).1.2 ?_, (answers _).2.1 (Launch.batchOverflows_infinity _),
    (answers _).2.2.2 1 template Launch.event [.int 1, .str "one"] (.str "one") ⟨_, rfl, rfl, rfl⟩
      suits ⟨[.int 1], [], rfl, ?_, noInteger⟩,
    ((Web.respond_to_batch_and_mail reachable rfl 1).2 (Launch.mailing_mailRequest _)).2.2
      Launch.event [.null] .null none ⟨_, _, rfl, rfl, rfl, rfl⟩ (by decide) eventFound
      ⟨[], [], rfl, fun _ none => absurd none List.not_mem_nil, rfl⟩⟩
  · rintro (⟨given, unbounded⟩ | ⟨⟨members, given, template, participants⟩, overflows⟩)
    · cases given
      cases unbounded
    · cases given
      cases template
      cases participants
      cases overflows with
      | template outside => exact outside (by decide)
      | event _ _ _ outside => exact outside (by decide)
      | value _ given _ => cases given
      | id _ given _ _ _ => cases given
  · intro other member
    rw [List.mem_singleton.1 member]
    exact ⟨1, rfl⟩

/-- A template id without bounds breaks the program down. -/
theorem launch_request_breaks_down :
    ¬∀ office : Office, office.IsReachable → ∀ members,
      Web.EndsWell (Web.respond (Launch.batchRequest members) office).1 := by
  intro ends
  have broken := ends _ Launch.isReachable_through_history [("templateId", Launch.infinity)]
  rw [Web.respond_of_posted rfl (Launch.generation_batchRequest _)
    (Web.handle?_generation rfl 1), Web.generate_of_batchOverflows
      (Launch.batchOverflows_infinity _)] at broken
  exact Web.not_endsWell_bare broken

end Issuance
