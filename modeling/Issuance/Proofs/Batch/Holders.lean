import Issuance.Proofs.Batch.Independence
import Issuance.Proofs.Batch.Refusals
/-!
Batches that are run again. A participant who holds a certificate is told so and is passed over: the
office stays as it is, the serial number is left to the next participant, and so everything else is
as if only those had been asked for who hold none.
-/

namespace Issuance
namespace Batch

/-- A turn that is over before codes are drawn, because the participant holds a certificate. -/
structure Turn.IsIdle (commission : Commission) (turn : Turn) : Prop where
  settled : Attempt.start.step commission turn.candidate turn.office =
    (Attempt.giveUp .resolving (Attempt.heldFailure commission turn.candidate), turn.office)
  outcome : turn.outcome commission =
    .setback ⟨Attempt.heldFailure commission turn.candidate, .resolving⟩
  after : turn.after commission = turn.office

/-- Whether a participant holds no certificate for the event. -/
def isFree (l : Ledger) (eventId : Int) (registration : Registration) : Bool :=
  !l.holds eventId registration.id

section

variable {commission : Commission} {registration : Registration} {office later : Office}

theorem isIdle_of_holds (serial : Int)
    (held : office.ledger.holds commission.event.id registration.id = true) :
    Turn.IsIdle commission ⟨⟨registration, serial⟩, office⟩ := by
  have complete := @Attempt.complete_of_held commission ⟨registration, serial⟩ office held
  refine ⟨?_, congrArg Prod.fst complete, congrArg Prod.snd complete⟩
  simp only [Attempt.step, Attempt.start, Attempt.opened, held, if_true]

theorem isAlreadyIssued_of_held (candidate : Candidate) (progress : Progress) :
    (Outcome.setback ⟨Attempt.heldFailure commission candidate, progress⟩).isAlreadyIssued = true :=
  rfl

theorem turns_cons (serial : Int) (rest : List Registration) :
    turns commission serial (registration :: rest) office =
      ⟨⟨registration, serial⟩, office⟩ :: turns commission
        (if (Attempt.complete commission ⟨registration, serial⟩ office).1.isAlreadyIssued
          then serial else serial + 1)
        rest (Attempt.complete commission ⟨registration, serial⟩ office).2 :=
  rfl

theorem turns_cons_of_holds (serial : Int) (rest : List Registration)
    (held : office.ledger.holds commission.event.id registration.id = true) :
    turns commission serial (registration :: rest) office =
      ⟨⟨registration, serial⟩, office⟩ :: turns commission serial rest office := by
  rw [turns_cons, @Attempt.complete_of_held commission ⟨registration, serial⟩ office held]
  simp only [isAlreadyIssued_of_held, if_true]

theorem issueAll_cons_of_holds (serial : Int) (rest : List Registration)
    (held : office.ledger.holds commission.event.id registration.id = true) :
    (issueAll commission serial (registration :: rest) office).2 =
      (issueAll commission serial rest office).2 := by
  rw [issueAll, @Attempt.complete_of_held commission ⟨registration, serial⟩ office held]
  simp only [isAlreadyIssued_of_held, if_true]

theorem Completed.certificates_subset {candidate : Candidate} {outcome : Outcome}
    (completed : Completed commission candidate office outcome later) :
    office.ledger.certificates ⊆ later.ledger.certificates := by
  cases completed with
  | issued => exact fun _ member => List.mem_append_left _ member
  | setback => exact fun _ member => member

end

/-- What a batch does for its participants is what it does for those of them who were free. -/
structure PassesOver (commission : Commission) (office : Office) (serial : Int)
    (participants : List Registration) (between : Office) : Prop where
  idle : ∀ turn ∈ turns commission serial participants between,
    isFree office.ledger commission.event.id turn.candidate.registration = false →
      turn.IsIdle commission
  remaining : (turns commission serial participants between).filter
      (fun turn => isFree office.ledger commission.event.id turn.candidate.registration) =
    turns commission serial (participants.filter (isFree office.ledger commission.event.id)) between
  after : (issueAll commission serial participants between).2 =
    (issueAll commission serial
      (participants.filter (isFree office.ledger commission.event.id)) between).2

namespace PassesOver

variable {commission : Commission} {office between : Office} {serial : Int}
  {registration : Registration} {rest : List Registration}

theorem nil : PassesOver commission office serial [] between :=
  ⟨fun _ none => absurd none List.not_mem_nil, rfl, rfl⟩

theorem cons_of_held (held : isFree office.ledger commission.event.id registration = false)
    (still : between.ledger.holds commission.event.id registration.id = true)
    (others : PassesOver commission office serial rest between) :
    PassesOver commission office serial (registration :: rest) between := by
  have out : ¬isFree office.ledger commission.event.id registration = true := by
    rw [held]
    exact Bool.false_ne_true
  refine ⟨?_, ?_, ?_⟩
  · rw [turns_cons_of_holds serial rest still]
    intro turn member bound
    rcases List.mem_cons.1 member with rfl | later
    · exact isIdle_of_holds serial still
    · exact others.idle turn later bound
  · rw [turns_cons_of_holds serial rest still, List.filter_cons_of_neg (a := registration) out,
      ← others.remaining]
    exact List.filter_cons_of_neg out
  · rw [issueAll_cons_of_holds serial rest still, List.filter_cons_of_neg out, others.after]

theorem cons_of_free (free : isFree office.ledger commission.event.id registration = true)
    (others : PassesOver commission office
      (if (Attempt.complete commission ⟨registration, serial⟩ between).1.isAlreadyIssued then serial
        else serial + 1) rest (Attempt.complete commission ⟨registration, serial⟩ between).2) :
    PassesOver commission office serial (registration :: rest) between := by
  refine ⟨?_, ?_, ?_⟩
  · intro turn member bound
    rcases List.mem_cons.1 member with rfl | later
    · rw [free] at bound
      cases bound
    · exact others.idle turn later bound
  · rw [List.filter_cons_of_pos free, turns_cons, turns_cons, ← others.remaining]
    exact List.filter_cons_of_pos
      (p := fun turn : Turn => isFree office.ledger commission.event.id _) free
  · rw [List.filter_cons_of_pos free, issueAll, issueAll]
    exact others.after

end PassesOver

/-- Certificates are kept from one turn to the next, so whoever held one at the beginning is passed
over. -/
theorem passesOver (commission : Commission) (office : Office) (serial : Int)
    (participants : List Registration) {between : Office} (sound : between.Sound)
    (kept : office.ledger.certificates ⊆ between.ledger.certificates) :
    PassesOver commission office serial participants between := by
  induction participants generalizing serial between with
  | nil => exact .nil
  | cons registration rest ih =>
      cases free : isFree office.ledger commission.event.id registration with
      | false =>
          have held := Ledger.holds_mono kept (Bool.not_eq_eq_eq_not.1 free)
          exact .cons_of_held free held (ih serial sound kept)
      | true =>
          have completed : Completed commission ⟨registration, serial⟩ between _ _ :=
            Attempt.completed_complete sound
          exact .cons_of_free free
            (ih _ (completed.sound sound) (List.Subset.trans kept completed.certificates_subset))

/-! Requests without those who hold a certificate. -/

/-- Whether an eligible participant with the given id holds a certificate. -/
def isHolder (l : Ledger) (eventId id : Int) : Bool :=
  (l.eligible eventId).any (·.id == id) && l.holds eventId id

/-- Whether a requested value stands for an eligible participant who holds a certificate. -/
def namesHolder (l : Ledger) (eventId : Int) (raw : Json) : Bool :=
  match raw.toInteger with
  | .ok id => isHolder l eventId id
  | .error _ => false

/-- A request for the same participants without those who hold a certificate. -/
def withoutHolders (l : Ledger) (eventId : Int) : Option (List Json) → List Json
  | none => ((l.eligible eventId).filter (isFree l eventId)).map fun r => .int r.id
  | some raws => raws.filter fun raw => !namesHolder l eventId raw

section

variable {l : Ledger} {eventId : Int}

theorem isHolder_of_mem_eligible {r : Registration} (member : r ∈ l.eligible eventId) :
    isHolder l eventId r.id = l.holds eventId r.id := by
  have among : (l.eligible eventId).any (·.id == r.id) = true :=
    List.any_eq_true.2 ⟨r, member, beq_self_eq_true r.id⟩
  rw [isHolder, among, Bool.true_and]

theorem requestedIds_withoutHolders {raws : List Json} {ids : List Int}
    (read : requestedIds raws = .ok ids) :
    requestedIds (withoutHolders l eventId (some raws)) =
      .ok (ids.filter fun id => !isHolder l eventId id) := by
  obtain ⟨all, related, rfl⟩ := requestedIds_eq_ok_iff.1 read
  refine requestedIds_eq_ok_iff.2 ⟨all.filter fun id => !isHolder l eventId id, ?_, ?_⟩
  · refine List.rel_filter ?_ related
    intro raw id same
    simp only [namesHolder, same]
  · exact (distinct_filter _ all).symm

theorem asked_filter (ids : List Int) :
    asked l eventId (ids.filter fun id => !isHolder l eventId id) =
      (asked l eventId ids).filter (isFree l eventId) := by
  unfold asked
  rw [List.filter_filter]
  apply List.filter_congr
  intro r member
  rw [Bool.eq_iff_iff, List.contains_iff_mem, List.mem_filter, isHolder_of_mem_eligible member,
    Bool.and_eq_true, List.contains_iff_mem, and_comm, isFree]

theorem unmet_filter (ids : List Int) :
    unmet l eventId (ids.filter fun id => !isHolder l eventId id) = unmet l eventId ids := by
  unfold unmet
  rw [asked_filter, List.filter_filter]
  apply List.filter_congr
  intro id member
  have inside : ∀ r ∈ l.eligible eventId, r.id = id → ids.contains r.id = true := by
    rintro r - rfl
    exact List.contains_iff_mem.2 member
  rw [Bool.eq_iff_iff]
  simp only [Bool.and_eq_true, Bool.not_eq_true', List.contains_eq_mem, decide_eq_false_iff_not]
  constructor
  · rintro ⟨absent, free⟩ present
    obtain ⟨r, asked, rfl⟩ := List.mem_map.1 present
    rw [isHolder_of_mem_eligible (List.mem_filter.1 asked).1] at free
    exact absent (List.mem_map_of_mem (List.mem_filter.2 ⟨asked, by rw [isFree, free]; rfl⟩))
  · intro absent
    refine ⟨fun present => absent ?_, ?_⟩
    · exact (List.filter_sublist.map _).subset present
    · rw [isHolder, Bool.and_eq_false_imp]
      intro among
      obtain ⟨r, eligible, same⟩ := List.any_eq_true.1 among
      have same := eq_of_beq same
      exact absurd (List.mem_map.2 ⟨r, List.mem_filter.2 ⟨eligible, inside r eligible same⟩, same⟩)
        absent

theorem requestedIds_of_registrations (registrations : List Registration) :
    requestedIds (registrations.map fun r => .int r.id) =
      .ok (distinct (registrations.map (·.id))) := by
  refine requestedIds_eq_ok_iff.2 ⟨_, ?_, rfl⟩
  rw [List.forall₂_map_left_iff, List.forall₂_map_right_iff]
  exact List.forall₂_same.2 fun _ _ => rfl

end

/-- Without those who hold a certificate the others are selected, and nobody else is rejected. -/
theorem select_withoutHolders {eventId : Int} {request : Option (List Json)} {office : Office}
    {participants : List Registration} {rejected : List Result}
    (selected : (select eventId request).perform office = (.ok (participants, rejected), office)) :
    (select eventId (some (withoutHolders office.ledger eventId request))).perform office =
      (.ok (participants.filter (isFree office.ledger eventId), rejected), office) := by
  rcases select_eq_ok_iff.1 selected with ⟨rfl, rfl, rfl⟩ | ⟨raws, ids, rfl, read, rfl, rfl, passed⟩
  · have free : asked office.ledger eventId (distinct
        (((office.ledger.eligible eventId).filter (isFree office.ledger eventId)).map (·.id))) =
          (office.ledger.eligible eventId).filter (isFree office.ledger eventId) := by
      apply List.filter_congr
      intro r member
      rw [Bool.eq_iff_iff, List.contains_iff_mem, mem_distinct]
      constructor
      · intro among
        obtain ⟨other, lacking, same⟩ := List.mem_map.1 among
        have free := (List.mem_filter.1 lacking).2
        rw [isFree, same] at free
        exact free
      · exact fun free => List.mem_map_of_mem (List.mem_filter.2 ⟨member, free⟩)
    have none : unmet office.ledger eventId (distinct
        (((office.ledger.eligible eventId).filter (isFree office.ledger eventId)).map (·.id))) =
          [] := by
      unfold unmet
      rw [free, List.filter_eq_nil_iff]
      intro id member
      rw [List.contains_iff_mem.2 (mem_distinct.1 member)]
      exact Bool.false_ne_true
    refine select_eq_ok_iff.2
      (Or.inr ⟨_, _, rfl, requestedIds_of_registrations _, free.symm, ?_, ?_⟩)
    · rw [none]
      rfl
    · rw [none]
      rfl
  · refine select_eq_ok_iff.2 (Or.inr ⟨_, _, rfl, requestedIds_withoutHolders read, ?_, ?_, ?_⟩)
    · exact (asked_filter ids).symm
    · rw [unmet_filter]
    · rw [unmet_filter, passed]

/-- What is reported of a participant who held a certificate of the event. -/
def heldResult (event : Event) (registration : Registration) : Result :=
  ⟨registration.id, registration.name,
    .setback ⟨.error (.alreadyIssued registration.id event.id), .resolving⟩⟩

theorem PassesOver.map_result {commission : Commission} {office between : Office} {serial : Int}
    {participants : List Registration}
    (passedOver : PassesOver commission office serial participants between)
    (held : ∀ r ∈ participants, office.ledger.holds commission.event.id r.id = true) :
    (turns commission serial participants between).map (Turn.result commission) =
      participants.map (heldResult commission.event) := by
  have registrations := registrations_turns commission serial participants between
  have each : ∀ turn ∈ turns commission serial participants between,
      Turn.result commission turn = heldResult commission.event turn.candidate.registration := by
    intro turn member
    have among : turn.candidate.registration ∈ participants := by
      rw [← registrations]
      exact List.mem_map_of_mem member
    have bound : isFree office.ledger commission.event.id turn.candidate.registration = false := by
      rw [isFree, held _ among]
      rfl
    rw [Turn.result, (passedOver.idle turn member bound).outcome]
    rfl
  calc (turns commission serial participants between).map (Turn.result commission)
      = ((turns commission serial participants between).map (·.candidate.registration)).map
          (heldResult commission.event) := by
        rw [List.map_map]
        exact List.map_congr_left each
    _ = participants.map (heldResult commission.event) := by rw [registrations]

/-- Running a batch again. Whoever holds a certificate is told so before any code is drawn, and
leaves the office and the next serial number as they were. If somebody holds none, all other results
and all that the batch does are those of the request without the holders; if all hold one, the batch
does nothing. -/
theorem holders_are_passed_over {office : Office} (reachable : office.IsReachable)
    (options : Options) {eventId templateId : Int}
    (templateInTables : -idBound ≤ templateId ∧ templateId < idBound)
    (eventInTables : -idBound ≤ eventId ∧ eventId < idBound) {request : Option (List Json)}
    {template : Template} {event : Event} {participants : List Registration}
    {rejected : List Result} (templateFound : office.ledger.template? templateId = some template)
    (ready : template.requireReady = .ok ())
    (eventFound : office.ledger.event? eventId = some event)
    (fits : checkEvent template event = .ok ())
    (selected : (select event.id request).perform office = (.ok (participants, rejected), office)) :
    ∃ source, template.source = .ok source ∧
      PassesOver (options.commission template event source) office
        (office.ledger.nextSerial event.id) participants office ∧
      ((∃ r ∈ participants, office.ledger.holds event.id r.id = false) → ∃ later,
        (run options eventId templateId request).perform office =
            (.ok ((turns (options.commission template event source)
                (office.ledger.nextSerial event.id) participants office).map
                  (Turn.result (options.commission template event source)) ++ rejected), later) ∧
          (run options eventId templateId
              (some (withoutHolders office.ledger event.id request))).perform office =
            (.ok (((turns (options.commission template event source)
                (office.ledger.nextSerial event.id) participants office).filter
                  fun turn => isFree office.ledger event.id turn.candidate.registration).map
                    (Turn.result (options.commission template event source)) ++ rejected),
              later)) ∧
      ((∀ r ∈ participants, office.ledger.holds event.id r.id = true) →
        ((run options eventId templateId request).perform office).2 = office ∧
          (participants ≠ [] → ((run options eventId templateId request).perform office).1 =
            .ok (participants.map (heldResult event) ++ rejected))) := by
  obtain ⟨source, drawnFrom⟩ := reachable.exists_source (Ledger.mem_of_template? templateFound)
  have opened : Opened options eventId templateId request office template event source participants
      rejected := ⟨templateFound, ready, eventFound, fits, selected, drawnFrom⟩
  have passedOver := passesOver (options.commission template event source) office
    (office.ledger.nextSerial event.id) participants reachable.sound (List.Subset.refl _)
  refine ⟨source, drawnFrom, passedOver, ?_, ?_⟩
  · rintro ⟨r, member, free⟩
    have reduced : Opened options eventId templateId
        (some (withoutHolders office.ledger event.id request)) office template event source
        (participants.filter (isFree office.ledger event.id)) rejected :=
      ⟨templateFound, ready, eventFound, fits, select_withoutHolders selected, drawnFrom⟩
    have lacking : isFree office.ledger event.id r = true := by
      rw [isFree, free]
      rfl
    have done := opened.perform_run_eq templateInTables eventInTables (List.ne_nil_of_mem member)
    have redone := reduced.perform_run_eq templateInTables eventInTables
      (List.ne_nil_of_mem (List.mem_filter.2 ⟨member, lacking⟩))
    refine ⟨_, done, redone.trans ?_⟩
    have remaining := passedOver.remaining
    have after := passedOver.after
    change _ = turns _ _ (participants.filter (isFree office.ledger event.id)) office at remaining
    change _ = (issueAll _ _ (participants.filter (isFree office.ledger event.id)) office).2
      at after
    rw [← remaining, ← after]
    rfl
  · intro held
    have nobody : participants.filter (isFree office.ledger event.id) = [] := by
      refine List.filter_eq_nil_iff.2 fun r member => ?_
      rw [isFree, held r member]
      exact Bool.false_ne_true
    have unchanged : (issueAll (options.commission template event source)
        (office.ledger.nextSerial event.id) participants office).2 = office := by
      have after := passedOver.after
      change _ = (issueAll _ _ (participants.filter (isFree office.ledger event.id)) office).2
        at after
      rw [after, nobody, issueAll]
    constructor
    · by_cases someone : participants = []
      · subst someone
        rw [run_of_nobody templateInTables templateFound ready eventInTables eventFound fits
          selected]
      · rw [opened.perform_run_eq templateInTables eventInTables someone, unchanged]
    · intro someone
      rw [opened.perform_run_eq templateInTables eventInTables someone]
      exact congrArg (fun results => Except.ok (results ++ rejected)) (passedOver.map_result held)

end Batch

/-! The guest of the launch gets a certificate, and the batch is run again: at once, and after a
latecomer has been checked in. -/

namespace Launch

def issued : List Step := history ++ [.operation (.generate options 1 1 none)]

def joined : List Step :=
  issued ++ [.change { circumstances with registrations := [guest, latecomer] },
    .operation (.checkIn latecomer none)]

theorem isReachable_through_issued : (start.through issued).IsReachable := by
  refine ⟨start, issued, isFresh_start, ?_, rfl⟩
  intro step member
  rcases List.mem_append.1 member with early | last
  · exact isOrdinary_history step early
  · cases List.mem_singleton.1 last
    trivial

theorem isReachable_through_joined : (start.through joined).IsReachable := by
  refine ⟨start, joined, isFresh_start, ?_, rfl⟩
  intro step member
  simp only [joined, issued, List.append_assoc, List.mem_append, List.mem_cons, List.not_mem_nil,
    or_false] at member
  rcases member with early | rfl | rfl | rfl
  · exact isOrdinary_history step early
  · trivial
  · exact ⟨isOrdinary_circumstances.codes, isOrdinary_circumstances.unrivalled⟩
  · trivial

theorem exists_ready {office : Office}
    (passes : (office.ledger.template? 1).any
      (fun t => t.requireReady.isOk && (Batch.checkEvent t event).isOk) = true) :
    ∃ template, office.ledger.template? 1 = some template ∧ template.requireReady = .ok () ∧
      Batch.checkEvent template event = .ok () := by
  obtain ⟨template, found, both⟩ := (Option.any_eq_true _ _).1 passes
  obtain ⟨isReady, isFitting⟩ := (Bool.and_eq_true _ _).mp both
  obtain ⟨_, ready⟩ := exists_ok_of_isOk isReady
  obtain ⟨_, fits⟩ := exists_ok_of_isOk isFitting
  exact ⟨template, found, ready, fits⟩

/-- What comes of the latecomer. -/
def joining : Batch.Outcome :=
  .success ⟨2, secondCodes, "primary:certificates/1/2/CERT-000000000002.png", 2, false⟩

/-- The office after the latecomer has been checked in, in which everything is evaluated at once. -/
theorem evaluated_joined :
    (start.through joined).ledger.holds 1 1 = true ∧
      (start.through joined).ledger.holds 1 2 = false ∧
      (start.through joined).ledger.nextSerial 1 = 2 ∧
      (start.through joined).ledger.event? 1 = some event ∧
      ((start.through joined).ledger.template? 1).any
        (fun t => t.requireReady.isOk && (Batch.checkEvent t event).isOk) = true ∧
      (((start.through joined).ledger.registrations.filter fun r =>
          r.eventId == 1 && r.status == eligibleStatus).filterMap fun r =>
        ((start.through joined).ledger.attendance? r.id).map fun attendance =>
          (r, attendance.checkedInAt)) = [(guest, clock), (latecomer, clock)] ∧
      ((start.through joined).ledger.template? 1).bind (fun t => t.source.toOption.map fun source =>
        (Batch.Attempt.complete (options.commission t event source) ⟨latecomer, 2⟩
          (start.through joined)).1) = some joining := by
  decide +kernel

theorem eligible_joined : (start.through joined).ledger.eligible 1 = [guest, latecomer] := by
  obtain ⟨-, -, -, -, -, unsorted, -⟩ := evaluated_joined
  have sorted : List.Pairwise (fun a b => Ledger.cameBefore a b = true)
      [(guest, clock), (latecomer, clock)] := by
    decide
  unfold Ledger.eligible Ledger.attendees
  simp only
  rw [unsorted, List.mergeSort_of_pairwise sorted]
  rfl

theorem evaluated_issued :
    (start.through issued).ledger.holds 1 1 = true ∧
      (start.through issued).ledger.event? 1 = some event ∧
      ((start.through issued).ledger.template? 1).any
        (fun t => t.requireReady.isOk && (Batch.checkEvent t event).isOk) = true ∧
      (start.through issued).ledger.eligible 1 = [guest] := by
  decide +kernel

end Launch

theorem launch_holders_are_passed_over :
    (∃ later,
      (Batch.run Launch.options 1 1 none).perform (Launch.start.through Launch.joined) =
          (.ok [Batch.heldResult Launch.event Launch.guest, ⟨2, some "Ben", Launch.joining⟩],
            later) ∧
        (Batch.run Launch.options 1 1 (some [.int 2])).perform
            (Launch.start.through Launch.joined) =
          (.ok [⟨2, some "Ben", Launch.joining⟩], later)) ∧
      ((Batch.run Launch.options 1 1 none).perform (Launch.start.through Launch.issued)).2 =
        Launch.start.through Launch.issued := by
  constructor
  · obtain ⟨holder, free, serial, eventFound, passes, -, outcome⟩ := Launch.evaluated_joined
    obtain ⟨template, found, ready, fits⟩ := Launch.exists_ready passes
    have reachable := Launch.isReachable_through_joined
    have eligible := Launch.eligible_joined
    generalize Launch.start.through Launch.joined = office at *
    have selected : (Batch.select Launch.event.id none).perform office =
        (.ok ([Launch.guest, Launch.latecomer], []), office) :=
      Batch.select_eq_ok_iff.2 (Or.inl ⟨rfl, eligible.symm, rfl⟩)
    obtain ⟨source, drawnFrom, -, resumed, -⟩ := Batch.holders_are_passed_over reachable
      Launch.options (by decide) (by decide) found ready eventFound fits selected
    obtain ⟨later, done, redone⟩ :=
      resumed ⟨Launch.latecomer, List.mem_cons_of_mem _ List.mem_cons_self, free⟩
    rw [found, Option.bind_some, drawnFrom] at outcome
    have joining : (Batch.Attempt.complete (Launch.options.commission template Launch.event source)
        ⟨Launch.latecomer, 2⟩ office).1 = Launch.joining := Option.some.inj outcome
    have turns : Batch.turns (Launch.options.commission template Launch.event source)
        (office.ledger.nextSerial Launch.event.id) [Launch.guest, Launch.latecomer] office =
          [⟨⟨Launch.guest, 2⟩, office⟩, ⟨⟨Launch.latecomer, 2⟩, office⟩] := by
      rw [Batch.turns_cons_of_holds _ _ holder, Batch.turns_cons]
      change office.ledger.nextSerial Launch.event.id = 2 at serial
      rw [serial]
      rfl
    have told : Batch.Turn.result (Launch.options.commission template Launch.event source)
        ⟨⟨Launch.guest, 2⟩, office⟩ = Batch.heldResult Launch.event Launch.guest := by
      have idle : Batch.Turn.IsIdle (Launch.options.commission template Launch.event source)
          ⟨⟨Launch.guest, 2⟩, office⟩ := Batch.isIdle_of_holds 2 holder
      rw [Batch.Turn.result, idle.outcome]
      rfl
    have served : Batch.Turn.result (Launch.options.commission template Launch.event source)
        ⟨⟨Launch.latecomer, 2⟩, office⟩ = ⟨2, some "Ben", Launch.joining⟩ := by
      rw [Batch.Turn.result, Batch.Turn.outcome, joining]
      rfl
    have out : Batch.isFree office.ledger Launch.event.id Launch.guest = false := by
      rw [Batch.isFree, Bool.not_eq_false']
      exact holder
    have remains : Batch.isFree office.ledger Launch.event.id Launch.latecomer = true := by
      rw [Batch.isFree, Bool.not_eq_true']
      exact free
    have reduced : Batch.withoutHolders office.ledger Launch.event.id none = [.int 2] := by
      have same : office.ledger.eligible Launch.event.id = _ := eligible
      rw [Batch.withoutHolders, same]
      simp only [List.filter_cons, out, remains, List.filter_nil, if_true, Bool.false_eq_true,
        if_false, List.map_cons, List.map_nil]
      rfl
    rw [turns] at done redone
    simp only [List.filter_cons, out, remains, List.filter_nil, if_true, Bool.false_eq_true,
      if_false, List.map_cons, List.map_nil, told, served, reduced] at done redone
    exact ⟨later, done, redone⟩
  · obtain ⟨held, eventFound, passes, eligible⟩ := Launch.evaluated_issued
    obtain ⟨template, found, ready, fits⟩ := Launch.exists_ready passes
    have reachable := Launch.isReachable_through_issued
    generalize Launch.start.through Launch.issued = office at *
    have selected : (Batch.select Launch.event.id none).perform office =
        (.ok ([Launch.guest], []), office) :=
      Batch.select_eq_ok_iff.2 (Or.inl ⟨rfl, eligible.symm, rfl⟩)
    obtain ⟨source, -, -, -, again⟩ := Batch.holders_are_passed_over reachable
      Launch.options (by decide) (by decide) found ready eventFound fits selected
    refine (again fun r member => ?_).1
    rw [List.mem_singleton.1 member]
    exact held

end Issuance
