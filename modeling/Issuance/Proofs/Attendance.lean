import Issuance.Proofs.Batch.Roster
import Issuance.Proofs.Rows
/-!
Check-ins over a whole history. Each accepted one is noted with its time; whatever else the office
does, a registration has at most one row of attendance, and it tells the time of the last of them.

A query that joins registrations and attendances would list a registration once for each of its
rows. As there is at most one, this is the list of those that are eligible one by one.
-/

namespace Issuance

/-- A check-in that was accepted: of which registration, and the time that was written down. -/
abbrev CheckIn := Int × Moment

def CheckIn.lastTime? (log : List CheckIn) (registrationId : Int) : Option Moment :=
  (log.filter (·.1 == registrationId)).getLast?.map (·.2)

theorem CheckIn.lastTime?_concat (log : List CheckIn) (id : Int) (time : Moment) (other : Int) :
    lastTime? (log ++ [(id, time)]) other = if other = id then some time else lastTime? log other := by
  unfold lastTime?
  rw [List.filter_append]
  by_cases same : other = id
  · have kept : [((id, time) : CheckIn)].filter (·.1 == other) = [(id, time)] :=
      List.filter_cons_of_pos (beq_iff_eq.2 same.symm)
    rw [if_pos same, kept, List.getLast?_concat]
    rfl
  · have dropped : [((id, time) : CheckIn)].filter (·.1 == other) = [] :=
      List.filter_cons_of_neg fun alike => same (eq_of_beq alike).symm
    rw [if_neg same, dropped, List.append_nil]

namespace Ledger

variable {l : Ledger} {log : List CheckIn}

/-- The rows of attendance tell of a list of check-ins: there is at most one row for each
registration, and it has the time of the last of its check-ins. -/
structure TellsOf (l : Ledger) (log : List CheckIn) : Prop where
  ids : (l.attendances.map (·.id)).Nodup
  once : (l.attendances.map (·.registrationId)).Nodup
  times : ∀ id, (l.attendance? id).map (·.checkedInAt) = CheckIn.lastTime? log id

theorem tellsOf_empty : empty.TellsOf [] :=
  ⟨List.nodup_nil, List.nodup_nil, fun _ => rfl⟩

theorem TellsOf.of_attendances_eq {later : Ledger} (tells : l.TellsOf log)
    (same : later.attendances = l.attendances) : later.TellsOf log := by
  obtain ⟨ids, once, times⟩ := tells
  refine ⟨?_, ?_, fun id => ?_⟩
  · rw [same]
    exact ids
  · rw [same]
    exact once
  · unfold attendance?
    rw [same]
    exact times id

theorem attendance?_eq_some_iff (once : (l.attendances.map (·.registrationId)).Nodup) {id : Int}
    {a : Attendance} :
    l.attendance? id = some a ↔ a ∈ l.attendances ∧ a.registrationId = id := by
  constructor
  · intro found
    exact ⟨List.mem_of_find?_eq_some found, eq_of_beq (List.find?_some found :)⟩
  · rintro ⟨member, here⟩
    exact find?_eq_some_of_nodup once member here

/-- The rows of a registration are the one that is found, or none. -/
theorem filter_attendances (once : (l.attendances.map (·.registrationId)).Nodup) (id : Int) :
    l.attendances.filter (·.registrationId == id) = (l.attendance? id).toList := by
  unfold attendance?
  generalize l.attendances = rows at once
  induction rows with
  | nil => rfl
  | cons first rest ih =>
      obtain ⟨apart, others⟩ := List.nodup_cons.1 once
      rw [List.filter_cons, List.find?_cons]
      by_cases here : first.registrationId = id
      · have absent : rest.filter (·.registrationId == id) = [] := by
          refine List.filter_eq_nil_iff.2 fun row member alike => apart ?_
          exact List.mem_map.2 ⟨row, member, (eq_of_beq alike).trans here.symm⟩
        rw [beq_iff_eq.2 here, absent]
        rfl
      · rw [beq_eq_false_iff_ne.2 here, ih others]
        rfl

/-- The time of a row is written anew. -/
def withTime (l : Ledger) (attendance : Attendance) (time : Moment) : Ledger :=
  { l with attendances := l.attendances.map fun a =>
      if a.id = attendance.id then { a with checkedInAt := time } else a }

def withAttendance (l : Ledger) (registrationId : Int) (time : Moment) : Ledger :=
  { l with attendances := l.attendances ++
      [⟨nextId (l.attendances.map (·.id)), registrationId, time⟩] }

theorem attendance?_withTime (attendance : Attendance) (time : Moment) (id : Int) :
    (l.withTime attendance time).attendance? id =
      (l.attendance? id).map fun a =>
        if a.id = attendance.id then { a with checkedInAt := time } else a := by
  have sameRegistrations : ((fun a : Attendance => a.registrationId == id) ∘
      fun a => if a.id = attendance.id then { a with checkedInAt := time } else a) =
      fun a => a.registrationId == id := by
    funext a
    simp only [Function.comp_apply]
    split <;> rfl
  unfold attendance? withTime
  rw [List.find?_map, sameRegistrations]

theorem TellsOf.withTime (tells : l.TellsOf log) {id : Int} {attendance : Attendance}
    (found : l.attendance? id = some attendance) (time : Moment) :
    (l.withTime attendance time).TellsOf (log ++ [(id, time)]) := by
  obtain ⟨ids, once, times⟩ := tells
  refine ⟨?_, ?_, fun other => ?_⟩
  · have same : (l.withTime attendance time).attendances.map (·.id) =
        l.attendances.map (·.id) := by
      refine List.map_map.trans (List.map_congr_left fun a _ => ?_)
      simp only [Function.comp_apply]
      split <;> rfl
    rw [same]
    exact ids
  · have same : (l.withTime attendance time).attendances.map (·.registrationId) =
        l.attendances.map (·.registrationId) := by
      refine List.map_map.trans (List.map_congr_left fun a _ => ?_)
      simp only [Function.comp_apply]
      split <;> rfl
    rw [same]
    exact once
  · rw [attendance?_withTime, CheckIn.lastTime?_concat]
    by_cases same : other = id
    · rw [same, found, if_pos rfl]
      simp only [Option.map_some, if_true]
    · rw [if_neg same, ← times other, Option.map_map]
      refine Option.map_congr fun a here => ?_
      have different : a.id ≠ attendance.id := by
        intro alike
        obtain ⟨member, ofOther⟩ := (attendance?_eq_some_iff once).1 here
        obtain ⟨present, ofThis⟩ := (attendance?_eq_some_iff once).1 found
        have equal := List.inj_on_of_nodup_map ids member present alike
        rw [equal, ofThis] at ofOther
        exact same ofOther.symm
      rw [Function.comp_apply, if_neg different]

theorem TellsOf.withAttendance (tells : l.TellsOf log) {id : Int} (absent : l.attendance? id = none)
    (time : Moment) : (l.withAttendance id time).TellsOf (log ++ [(id, time)]) := by
  obtain ⟨ids, once, times⟩ := tells
  refine ⟨nodup_map_append ids ?_, nodup_map_append once ?_, fun other => ?_⟩
  · intro a member
    exact (lt_nextId (List.mem_map_of_mem (f := (·.id)) member)).ne
  · intro a member same
    exact List.find?_eq_none.1 absent a member (beq_iff_eq.2 same)
  · rw [CheckIn.lastTime?_concat, ← times other]
    unfold attendance? Ledger.withAttendance
    rw [List.find?_append]
    by_cases same : other = id
    · have none : l.attendances.find? (·.registrationId == id) = none := absent
      rw [same, none, if_pos rfl, Option.none_or, List.find?_cons, beq_self_eq_true]
      rfl
    · have different : (id == other) = false := beq_eq_false_iff_ne.2 (Ne.symm same)
      rw [if_neg same, List.find?_cons, different, List.find?_nil, Option.or_none]

/-- A second check-in of a registration leaves the rows as they are, but for the time of one. -/
theorem recordCheckIn_eq (ids : (l.attendances.map (·.id)).Nodup) (id : Int) (time : Moment) :
    (∃ attendance, l.attendance? id = some attendance ∧
        l.recordCheckIn id time = ({ attendance with checkedInAt := time },
          l.withTime attendance time)) ∨
      l.attendance? id = none ∧
        l.recordCheckIn id time = (⟨nextId (l.attendances.map (·.id)), id, time⟩,
          l.withAttendance id time) := by
  unfold recordCheckIn
  cases found : l.attendance? id with
  | none => exact Or.inr ⟨rfl, rfl⟩
  | some attendance =>
      refine Or.inl ⟨attendance, rfl, ?_⟩
      have member := List.mem_of_find?_eq_some found
      refine Prod.ext rfl (congrArg (fun rows => { l with attendances := rows }) ?_)
      refine List.map_congr_left fun a present => ?_
      split
      · next same => rw [List.inj_on_of_nodup_map ids present member same]
      · rfl

/-- One more check-in is told of, as the last one of its registration. -/
theorem TellsOf.recordCheckIn (tells : l.TellsOf log) (id : Int) (time : Moment) :
    (l.recordCheckIn id time).2.TellsOf (log ++ [(id, time)]) := by
  rcases recordCheckIn_eq tells.ids id time with ⟨attendance, found, done⟩ | ⟨absent, done⟩
  · rw [done]
    exact tells.withTime found time
  · rw [done]
    exact tells.withAttendance absent time

theorem recordCheckIn_row (l : Ledger) (id : Int) (time : Moment) :
    (l.recordCheckIn id time).1.registrationId = id ∧
      (l.recordCheckIn id time).1.checkedInAt = time := by
  unfold recordCheckIn
  split
  · next attendance found => exact ⟨eq_of_beq (List.find?_some found :), rfl⟩
  · exact ⟨rfl, rfl⟩

/-- The rows that a query for the eligible registrations of an event comes upon: each confirmed
registration of the event with each of its rows of attendance. -/
def joined (l : Ledger) (eventId : Int) : List Attendee :=
  (l.registrations.filter fun r => r.eventId == eventId && r.status == eligibleStatus).flatMap
    fun r => (l.attendances.filter (·.registrationId == r.id)).map fun a => (r, a.checkedInAt)

theorem attendees_eq_mergeSort_joined (once : (l.attendances.map (·.registrationId)).Nodup)
    (eventId : Int) : l.attendees eventId = (l.joined eventId).mergeSort cameBefore := by
  unfold attendees joined
  simp only [filter_attendances once]
  rw [List.filterMap_eq_flatMap_toList]
  simp only [Option.toList_map]

end Ledger

/-- Only a confirmed registration can be checked in. -/
theorem perform_checkIn (registration : Registration) (time : Option Moment) (office : Office) :
    (checkIn registration time).perform office =
      if registration.status = eligibleStatus then
        (.ok (office.ledger.recordCheckIn registration.id (time.getD office.clock).naive).1,
          { office with ledger :=
              (office.ledger.recordCheckIn registration.id (time.getD office.clock).naive).2 })
      else (.error (.defect .refusedCheckIn), office) := by
  unfold checkIn
  by_cases confirmed : registration.status = eligibleStatus
  · rw [if_pos confirmed, confirmed]
    rfl
  · have refused : (registration.status != eligibleStatus) = true := bne_iff_ne.2 confirmed
    rw [if_neg confirmed, refused]
    rfl

/-- The check-in that is accepted in a step, if the step is one. -/
def Step.checkIn? : Step → Office → Option CheckIn
  | .operation (.checkIn registration time), office =>
    if registration.status = eligibleStatus then
      some (registration.id, (time.getD office.clock).naive)
    else none
  | _, _ => none

namespace Office

/-- The check-ins that are accepted in a history, in turn. -/
def checkIns (office : Office) : List Step → List CheckIn
  | [] => []
  | step :: rest => (step.checkIn? office).toList ++ (step.run office).checkIns rest

theorem tellsOf_step (step : Step) {office : Office} (sound : office.Sound) {log : List CheckIn}
    (tells : office.ledger.TellsOf log) :
    (step.run office).ledger.TellsOf (log ++ (step.checkIn? office).toList) := by
  cases step with
  | change circumstances =>
      rw [Step.checkIn?, Option.toList_none, List.append_nil]
      · exact tells.of_attendances_eq rfl
      · exact fun _ _ impossible => nomatch impossible
  | operation op =>
      by_cases isCheckIn : ∃ registration time, op = .checkIn registration time
      · obtain ⟨registration, time, rfl⟩ := isCheckIn
        rw [Step.run, Operation.work, Work.after_bind_pure, Work.after, perform_checkIn,
          Step.checkIn?]
        split
        · exact tells.recordCheckIn registration.id _
        · rw [Option.toList_none, List.append_nil]
          exact tells
      · have other : ∀ registration time, op ≠ .checkIn registration time :=
          fun registration time same => isCheckIn ⟨registration, time, same⟩
        have unlogged : Step.checkIn? (.operation op) office = none := by
          cases op with
          | checkIn registration time => exact absurd rfl (other registration time)
          | _ => rfl
        rw [unlogged, Option.toList_none, List.append_nil]
        exact tells.of_attendances_eq (Operation.attendances_work sound other)

/-- Through a whole history, the rows tell of all check-ins that were accepted. -/
theorem tellsOf_through {history : List Step} (ordinary : ∀ step ∈ history, Step.IsOrdinary step)
    {office : Office} (sound : office.Sound) {log : List CheckIn}
    (tells : office.ledger.TellsOf log) :
    (office.through history).ledger.TellsOf (log ++ office.checkIns history) := by
  induction history generalizing office log with
  | nil =>
      rw [checkIns, List.append_nil]
      exact tells
  | cons step rest ih =>
      have after := (advances_step (ordinary step List.mem_cons_self) sound).sound
      rw [checkIns, ← List.append_assoc]
      exact ih (fun other member => ordinary other (List.mem_cons_of_mem step member)) after
        (tellsOf_step step sound tells)

end Office

/-- Over any history of check-ins, of changes of registrations and of all other operations: a
registration has at most one row of attendance, with the time of its last accepted check-in; a
check-in of a registration that is not confirmed is refused and changes nothing, and any other one
is accepted. At any time, the registrations listed for an event are just those of its registrations
that are eligible one by one, each once, by the time of the check-in and then by id; and this is
what the query over both tables gives, row by row. -/
theorem eligibility_follows_check_ins {start office : Office} {history : List Step}
    (fresh : start.IsFresh) (ordinary : ∀ step ∈ history, Step.IsOrdinary step)
    (reached : start.through history = office)
    (keyed : (office.ledger.registrations.map (·.id)).Nodup) :
    (∀ id, (office.ledger.attendances.filter (·.registrationId == id)).map (·.checkedInAt) =
        (CheckIn.lastTime? (start.checkIns history) id).toList) ∧
      (∀ registration time, registration.status ≠ eligibleStatus →
        (checkIn registration time).perform office = (.error (.defect .refusedCheckIn), office)) ∧
      (∀ registration time, registration.status = eligibleStatus →
        ∃ attendance later, (checkIn registration time).perform office = (.ok attendance, later) ∧
          attendance.registrationId = registration.id ∧
          attendance.checkedInAt = (time.getD office.clock).naive) ∧
      (∀ r, office.ledger.isEligible r = true ↔ r.status = eligibleStatus ∧
        (CheckIn.lastTime? (start.checkIns history) r.id).isSome = true) ∧
      ∀ eventId,
        (∀ r, r ∈ office.ledger.eligible eventId ↔
          r ∈ office.ledger.registrations ∧ r.eventId = eventId ∧
            office.ledger.isEligible r = true) ∧
        (office.ledger.eligible eventId).Nodup ∧
        (office.ledger.eligible eventId).Pairwise office.ledger.CameEarlier ∧
        office.ledger.eligible eventId =
          ((office.ledger.joined eventId).mergeSort Ledger.cameBefore).map (·.1) := by
  have empty : start.ledger.TellsOf [] := by
    obtain ⟨settings, vault, clock, -, rfl⟩ := fresh
    exact Ledger.tellsOf_empty
  have tells : office.ledger.TellsOf (start.checkIns history) := by
    rw [← reached]
    exact Office.tellsOf_through ordinary fresh.sound empty
  refine ⟨fun id => ?_, ?_, ?_, fun r => ?_, fun eventId => ⟨fun r => Ledger.mem_eligible, ?_, ?_, ?_⟩⟩
  · rw [Ledger.filter_attendances tells.once, ← tells.times id, Option.toList_map]
  · intro registration time unconfirmed
    rw [perform_checkIn, if_neg unconfirmed]
  · intro registration time confirmed
    rw [perform_checkIn, if_pos confirmed]
    exact ⟨_, _, rfl, Ledger.recordCheckIn_row _ _ _⟩
  · rw [← tells.times r.id, Option.isSome_map, Ledger.isEligible, Bool.and_eq_true, beq_iff_eq]
  · exact (Ledger.nodup_ids_eligible keyed eventId).of_map _
  · exact Ledger.pairwise_eligible keyed eventId
  · rw [Ledger.eligible, Ledger.attendees_eq_mergeSort_joined tells.once]

/-! Two guests are checked in at the same time, one of them for the second time, and somebody who has
cancelled is turned away. -/

namespace Launch

def withdrawn : Registration := { guest with id := 3, name := some "Cleo", status := "cancelled" }

def visits : List Step :=
  [.change { circumstances with registrations := [latecomer, withdrawn, guest] },
    .operation (.checkIn latecomer none), .operation (.checkIn withdrawn none),
    .operation (.checkIn guest (some { clock with hour := 9 })),
    .operation (.checkIn guest none)]

theorem isOrdinary_visits : ∀ step ∈ visits, Step.IsOrdinary step := by
  intro step member
  simp only [visits, List.mem_cons, List.not_mem_nil, or_false] at member
  rcases member with rfl | rfl | rfl | rfl | rfl
  · exact ⟨isOrdinary_circumstances.codes, isOrdinary_circumstances.unrivalled⟩
  · trivial
  · trivial
  · trivial
  · trivial

end Launch

theorem launch_eligibility_follows_check_ins :
    ((Launch.start.through Launch.visits).ledger.registrations.map (·.id)).Nodup ∧
      Launch.start.checkIns Launch.visits =
        [(2, Launch.clock), (1, { Launch.clock with hour := 9 }), (1, Launch.clock)] ∧
      (Launch.start.through Launch.visits).ledger.eligible 1 = [Launch.guest, Launch.latecomer] ∧
      (Launch.start.through Launch.visits).ledger.isEligible Launch.withdrawn = false ∧
      ((Launch.start.through Launch.visits).ledger.attendances.filter
        (·.registrationId == 1)).map (·.checkedInAt) = [Launch.clock] := by
  have facts : ((Launch.start.through Launch.visits).ledger.registrations.map (·.id)).Nodup ∧
      Launch.start.checkIns Launch.visits =
        [(2, Launch.clock), (1, { Launch.clock with hour := 9 }), (1, Launch.clock)] ∧
      (Launch.start.through Launch.visits).ledger.joined 1 =
        [(Launch.latecomer, Launch.clock), (Launch.guest, Launch.clock)] ∧
      (Launch.start.through Launch.visits).ledger.isEligible Launch.withdrawn = false := by
    decide +kernel
  obtain ⟨keyed, logged, joined, withdrawn⟩ := facts
  obtain ⟨times, -, -, -, listed⟩ :=
    eligibility_follows_check_ins Launch.isFresh_start Launch.isOrdinary_visits rfl keyed
  obtain ⟨-, -, -, query⟩ := listed 1
  refine ⟨keyed, logged, ?_, withdrawn, ?_⟩
  · rw [query, joined]
    cbv
  · rw [times, logged]
    rfl

end Issuance
