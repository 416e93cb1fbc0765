import Issuance.Proofs.Batch.Holders
/-!
Whom a batch answers. Everybody who is asked for gets exactly one result: first those who take part,
in the order in which they were checked in, then the others in the order of the request.
-/

namespace Issuance

theorem pairwise_idxOf_distinct {α : Type} [DecidableEq α] (xs : List α) :
    (distinct xs).Pairwise fun a b => xs.idxOf a < xs.idxOf b := by
  have beyond : ∀ seen, (distinctBeyond id seen xs).Pairwise
      fun a b => xs.idxOf a < xs.idxOf b := by
    induction xs with
    | nil => exact fun _ => List.Pairwise.nil
    | cons first rest ih =>
        intro seen
        -- only elements other than the first are listed further on
        have later : ∀ listed, first ∈ listed →
            (distinctBeyond id listed rest).Pairwise
              fun a b => (first :: rest).idxOf a < (first :: rest).idxOf b := by
          intro listed here
          refine (ih listed).imp_of_mem fun {a b} left right before => ?_
          have other : ∀ c ∈ distinctBeyond id listed rest, first ≠ c := by
            rintro c member rfl
            exact (mem_distinctBeyond.1 member).2 here
          rw [List.idxOf_cons_ne _ (other a left), List.idxOf_cons_ne _ (other b right)]
          exact Nat.succ_lt_succ before
        rw [distinctBeyond]
        split
        · exact later seen ‹_›
        · refine List.pairwise_cons.2 ⟨fun b member => ?_, later _ List.mem_cons_self⟩
          have other : first ≠ b := by
            rintro rfl
            exact (mem_distinctBeyond.1 member).2 List.mem_cons_self
          rw [List.idxOf_cons_self, List.idxOf_cons_ne _ other]
          exact Nat.succ_pos _
  exact beyond []

namespace Ledger

/-- Both are checked in, the first before the second, or at the same time under a lower id. -/
def CameEarlier (l : Ledger) (first second : Registration) : Prop :=
  ∃ early late, l.attendance? first.id = some early ∧ l.attendance? second.id = some late ∧
    (early.checkedInAt.ticks < late.checkedInAt.ticks ∨
      early.checkedInAt.ticks = late.checkedInAt.ticks ∧ first.id < second.id)

theorem cameBefore_iff {a b : Attendee} :
    cameBefore a b = true ↔
      a.2.ticks < b.2.ticks ∨ a.2.ticks = b.2.ticks ∧ a.1.id ≤ b.1.id := by
  simp only [cameBefore, Bool.or_eq_true, Bool.and_eq_true, decide_eq_true_eq, beq_iff_eq]

theorem pairwise_attendees (l : Ledger) (eventId : Int) :
    (l.attendees eventId).Pairwise fun a b => cameBefore a b = true := by
  refine List.pairwise_mergeSort ?_ ?_ _
  · intro a b c first second
    rw [cameBefore_iff] at *
    omega
  · intro a b
    rw [Bool.or_eq_true, cameBefore_iff, cameBefore_iff]
    omega

theorem exists_attendance {l : Ledger} {eventId : Int} {attendee : Attendee}
    (member : attendee ∈ l.attendees eventId) :
    ∃ attendance, l.attendance? attendee.1.id = some attendance ∧
      attendance.checkedInAt = attendee.2 := by
  obtain ⟨r, -, here⟩ := List.mem_filterMap.1 (List.mem_mergeSort.1 member)
  obtain ⟨attendance, found, rfl⟩ := Option.map_eq_some_iff.1 here
  exact ⟨attendance, found, rfl⟩

theorem pairwise_eligible {l : Ledger} (keyed : (l.registrations.map (·.id)).Nodup) (eventId : Int) :
    (l.eligible eventId).Pairwise l.CameEarlier := by
  have apart : (l.attendees eventId).Pairwise fun a b => a.1.id ≠ b.1.id := by
    have ids := nodup_ids_eligible keyed eventId
    rwa [eligible, List.Nodup, List.pairwise_map, List.pairwise_map] at ids
  refine List.pairwise_map.2 (((l.pairwise_attendees eventId).and apart).imp_of_mem ?_)
  rintro a b left right ⟨before, different⟩
  obtain ⟨early, foundEarly, timeEarly⟩ := exists_attendance left
  obtain ⟨late, foundLate, timeLate⟩ := exists_attendance right
  refine ⟨early, late, foundEarly, foundLate, ?_⟩
  rw [cameBefore_iff] at before
  rw [timeEarly, timeLate]
  omega

end Ledger

/-- Of the two reasons for which somebody does not take part, only one says that there is no
registration. -/
theorem Error.says_not_registered (participant event : Int) :
    "not registered".toList <:+: (Error.notRegistered participant event).message.toList ∧
      ¬"not registered".toList <:+: (Error.notAttended participant event).message.toList := by
  have absent : (Error.notRegistered participant event).message =
      "Participant " ++ toString participant ++ " is not registered for event " ++ toString event :=
    rfl
  have unattended : (Error.notAttended participant event).message =
      "Participant " ++ toString participant ++ " has not attended event " ++ toString event :=
    rfl
  constructor
  · have said : " is not registered for event " = " is " ++ "not registered" ++ " for event " := by
      decide
    rw [absent, said]
    simp only [String.toList_append]
    refine ⟨"Participant ".toList ++ (toString participant).toList ++ " is ".toList,
      " for event ".toList ++ (toString event).toList, ?_⟩
    simp only [List.append_assoc]
  · -- the other wording has no letter `g`
    intro said
    have member := said.subset (show 'g' ∈ "not registered".toList by decide)
    have number : ∀ n : Int, 'g' ∉ (toString n).toList :=
      fun n => Batch.not_mem_toString (by decide) (by decide) n
    have words : 'g' ∉ "Participant ".toList ∧ 'g' ∉ " has not attended event ".toList := by
      decide
    rw [unattended] at member
    simp only [String.toList_append, List.mem_append, words.1, words.2, number, or_self] at member

namespace Batch

/-- A list of everybody who takes part in a batch that asks for some ids: the eligible registrations
of the event with these ids, in the order in which they were checked in. -/
structure IsRoster (l : Ledger) (eventId : Int) (asksFor : Int → Prop)
    (roster : List Registration) : Prop where
  members : ∀ r, r ∈ roster ↔
    r ∈ l.registrations ∧ r.eventId = eventId ∧ l.isEligible r = true ∧ asksFor r.id
  order : roster.Pairwise l.CameEarlier

/-- A result of an id for which nothing was begun. It says whether there is a registration. -/
structure IsTurnedAway (l : Ledger) (eventId : Int) (result : Result) (failure : Failure) :
    Prop where
  outcome : result.outcome = .setback ⟨failure, .notStarted⟩
  reason : failure.reason = ErrorKind.notEligible.code
  message : "not registered".toList <:+: failure.message.toList ↔
    ¬∃ r ∈ l.registrations, r.id = result.participantId ∧ r.eventId = eventId

/-- The results for a list of ids: those of the participants, and those of the others. -/
structure Answers (l : Ledger) (eventId : Int) (requested : List Int)
    (roster : List Registration) (accepted rejected : List Result) : Prop where
  isRoster : IsRoster l eventId (· ∈ requested) roster
  acceptedIds : accepted.map (·.participantId) = roster.map (·.id)
  rejectedIds : ∀ id, id ∈ rejected.map (·.participantId) ↔
    id ∈ requested ∧ id ∉ roster.map (·.id)
  rejectedOrder : (rejected.map (·.participantId)).Pairwise fun a b =>
    requested.idxOf a < requested.idxOf b
  turnedAway : ∀ result ∈ rejected, ∃ failure, IsTurnedAway l eventId result failure

section

variable {l : Ledger} (keyed : (l.registrations.map (·.id)).Nodup) (eventId : Int)
include keyed

theorem isRoster_eligible : IsRoster l eventId (fun _ => True) (l.eligible eventId) where
  members r := by
    rw [Ledger.mem_eligible, and_true]
  order := Ledger.pairwise_eligible keyed eventId

theorem isRoster_asked (ids : List Int) :
    IsRoster l eventId (· ∈ ids) (asked l eventId ids) where
  members r := by
    rw [asked, List.mem_filter, Ledger.mem_eligible, List.contains_iff_mem, and_assoc, and_assoc]
  order := (Ledger.pairwise_eligible keyed eventId).filter _

theorem nodup_ids_asked (ids : List Int) : ((asked l eventId ids).map (·.id)).Nodup :=
  (Ledger.nodup_ids_eligible keyed eventId).sublist (List.filter_sublist.map _)

theorem isTurnedAway_rejection (id : Int) :
    ∃ failure, IsTurnedAway l eventId (rejection l eventId id) failure := by
  have ofAbsent : (¬∃ r ∈ l.registrations, r.id = id ∧ r.eventId = eventId) →
      IsTurnedAway l eventId
        ⟨id, none, .setback ⟨.error (.notRegistered id eventId), .notStarted⟩⟩
        (.error (.notRegistered id eventId)) := fun absent =>
    ⟨rfl, rfl, iff_of_true (Error.says_not_registered id eventId).1 absent⟩
  unfold rejection
  cases found : l.registration? id with
  | none =>
      refine ⟨_, ofAbsent ?_⟩
      rintro ⟨r, member, same, -⟩
      exact List.find?_eq_none.1 found r member (beq_iff_eq.2 same)
  | some r =>
      have member : r ∈ l.registrations := List.mem_of_find?_eq_some found
      have same : r.id = id := eq_of_beq (List.find?_some found :)
      simp only
      split
      · refine ⟨_, rfl, rfl, iff_of_false (Error.says_not_registered id eventId).2 ?_⟩
        exact not_not_intro ⟨r, member, same, ‹_›⟩
      · refine ⟨_, ofAbsent ?_⟩
        rintro ⟨other, present, again, here⟩
        have equal := List.inj_on_of_nodup_map keyed present member (again.trans same.symm)
        exact absurd (equal ▸ here) ‹_›

end

theorem participantIds_issueAll (commission : Commission) (serial : Int)
    (participants : List Registration) (office : Office) :
    (issueAll commission serial participants office).1.map (·.participantId) =
      participants.map (·.id) := by
  conv_rhs => rw [← registrations_turns commission serial participants office]
  rw [results_issueAll, List.map_map, List.map_map]
  rfl

theorem participantIds_rejected (l : Ledger) (eventId : Int) (ids : List Int) :
    (ids.map (rejection l eventId)).map (·.participantId) = ids := by
  rw [List.map_map]
  exact List.map_id'' (participantId_rejection l eventId) ids

theorem mem_unmet {l : Ledger} {eventId : Int} {ids : List Int} {id : Int} :
    id ∈ unmet l eventId ids ↔ id ∈ ids ∧ id ∉ (asked l eventId ids).map (·.id) := by
  rw [unmet, List.mem_filter, Bool.not_eq_true', ← Bool.not_eq_true, List.contains_iff_mem]

/-- Whoever is asked for takes part, or gets a result as one who does not. -/
theorem answers_of_requestedIds {l : Ledger} (keyed : (l.registrations.map (·.id)).Nodup)
    (eventId : Int) (requested : List Int) {accepted : List Result}
    (ofParticipants : accepted.map (·.participantId) =
      (asked l eventId (distinct requested)).map (·.id)) :
    Answers l eventId requested (asked l eventId (distinct requested)) accepted
      ((unmet l eventId (distinct requested)).map (rejection l eventId)) where
  isRoster := by
    obtain ⟨members, order⟩ := isRoster_asked keyed eventId (distinct requested)
    simp only [mem_distinct] at members
    exact ⟨members, order⟩
  acceptedIds := ofParticipants
  rejectedIds id := by
    rw [participantIds_rejected, mem_unmet, mem_distinct]
  rejectedOrder := by
    rw [participantIds_rejected]
    exact (pairwise_idxOf_distinct requested).filter _
  turnedAway result member := by
    obtain ⟨id, -, rfl⟩ := List.mem_map.1 member
    exact isTurnedAway_rejection keyed eventId id

/-- Nobody is in both parts, and everybody who is asked for is in one of them. -/
theorem Answers.mem_iff {l : Ledger} {eventId : Int} {requested : List Int}
    {roster : List Registration} {accepted rejected : List Result}
    (answers : Answers l eventId requested roster accepted rejected) (id : Int) :
    id ∈ (accepted ++ rejected).map (·.participantId) ↔ id ∈ requested := by
  rw [List.map_append, List.mem_append, answers.acceptedIds, answers.rejectedIds]
  constructor
  · rintro (among | ⟨asked, -⟩)
    · obtain ⟨r, member, rfl⟩ := List.mem_map.1 among
      exact ((answers.isRoster.members r).1 member).2.2.2
    · exact asked
  · intro asked
    by_cases among : id ∈ roster.map (·.id)
    · exact Or.inl among
    · exact Or.inr ⟨asked, among⟩

theorem Answers.nodup {l : Ledger} {eventId : Int} {requested : List Int}
    {roster : List Registration} {accepted rejected : List Result}
    (answers : Answers l eventId requested roster accepted rejected)
    (apart : (roster.map (·.id)).Nodup) :
    ((accepted ++ rejected).map (·.participantId)).Nodup := by
  rw [List.map_append, answers.acceptedIds, List.nodup_append]
  refine ⟨apart, answers.rejectedOrder.imp fun before same => ?_, ?_⟩
  · rw [same] at before
    exact lt_irrefl _ before
  · rintro id among other later rfl
    exact ((answers.rejectedIds id).1 later).2 among

theorem summarize_counts (results : List Result) :
    (summarize results).total = results.length ∧
      (summarize results).successful = results.countP (·.outcome.isSuccess) ∧
      (summarize results).total = (summarize results).successful + (summarize results).failed := by
  have bounded := List.length_filter_le (fun result : Result => result.outcome.isSuccess) results
  refine ⟨rfl, List.countP_eq_length_filter.symm, ?_⟩
  exact (Nat.add_sub_cancel' bounded).symm

/-- Nobody is lost and nobody is answered twice, as registrations are told apart by their ids.
Without a request the results are those of everybody who is eligible, in the order in which they
were checked in. For a request they are those of the ids it stands for, in whatever spelling and
however often: first the participants, in the same order, and then the others, in the order in which
they are first asked for, each told whether there is a registration. The summary counts the
results. -/
theorem everybody_is_answered_once {office later : Office}
    (keyed : (office.ledger.registrations.map (·.id)).Nodup) {options : Options}
    {eventId templateId : Int} {request : Option (List Json)} {results : List Result}
    (done : (run options eventId templateId request).perform office = (.ok results, later)) :
    (results.map (·.participantId)).Nodup ∧
      (request = none → ∃ roster, IsRoster office.ledger eventId (fun _ => True) roster ∧
        results.map (·.participantId) = roster.map (·.id)) ∧
      (∀ raws, request = some raws → ∃ requested,
        List.Forall₂ (fun raw id => raw.toInteger = .ok id) raws requested ∧
        (∀ id, id ∈ results.map (·.participantId) ↔ id ∈ requested) ∧
        ∃ roster accepted rejected, results = accepted ++ rejected ∧
          Answers office.ledger eventId requested roster accepted rejected) ∧
      (summarize results).total = results.length ∧
      (summarize results).successful = results.countP (·.outcome.isSuccess) ∧
      (summarize results).total = (summarize results).successful + (summarize results).failed := by
  rcases run_cases options eventId templateId request office with
    ⟨failure, refused⟩ | ⟨template, event, source, participants, rejected, opened, issued⟩
  · rw [refused] at done
    cases done
  rw [issued] at done
  have whole := Except.ok.inj (Prod.mk.inj done).1
  have ofParticipants := participantIds_issueAll (options.commission template event source)
    (office.ledger.nextSerial event.id) participants office
  generalize (issueAll (options.commission template event source)
    (office.ledger.nextSerial event.id) participants office).1 = accepted at whole ofParticipants
  subst whole
  have selected := opened.selected
  rw [opened.event_id] at selected
  rcases select_eq_ok_iff.1 selected with ⟨rfl, rfl, rfl⟩ | ⟨raws, ids, rfl, read, rfl, rfl, -⟩
  · rw [List.append_nil, ofParticipants]
    refine ⟨Ledger.nodup_ids_eligible keyed eventId, fun _ => ?_, nofun, summarize_counts accepted⟩
    exact ⟨_, isRoster_eligible keyed eventId, rfl⟩
  · obtain ⟨requested, related, rfl⟩ := requestedIds_eq_ok_iff.1 read
    have answers := answers_of_requestedIds keyed eventId requested ofParticipants
    refine ⟨answers.nodup (nodup_ids_asked keyed eventId _), nofun, ?_, summarize_counts _⟩
    intro _ same
    cases same
    exact ⟨requested, related, answers.mem_iff, _, accepted, _, rfl, answers⟩

end Batch

/-! The guest of the launch, a latecomer who is not there yet, and somebody else are asked for. -/

namespace Launch

def announced : List Step :=
  history ++ [.change { circumstances with registrations := [guest, latecomer] }]

def spellings : List Json := [.str "7", .int 2, .str " 1 ", .int 1, .str "+2", .str "007"]

/-- What is reported of them. -/
def answers : List Batch.Result :=
  [result, ⟨7, none, .setback ⟨.error (.notRegistered 7 1), .notStarted⟩⟩,
    ⟨2, some "Ben", .setback ⟨.error (.notAttended 2 1), .notStarted⟩⟩]

end Launch

theorem launch_everybody_is_answered_once :
    ((Launch.start.through Launch.announced).ledger.registrations.map (·.id)).Nodup ∧
      ((Batch.run Launch.options 1 1 (some Launch.spellings)).perform
        (Launch.start.through Launch.announced)).1 = .ok Launch.answers ∧
      Launch.answers.map (·.participantId) = [1, 7, 2] ∧
      ∃ roster accepted rejected, Launch.answers = accepted ++ rejected ∧
        Batch.Answers (Launch.start.through Launch.announced).ledger 1 [7, 2, 1, 1, 2, 7] roster
          accepted rejected := by
  have facts : ((Launch.start.through Launch.announced).ledger.registrations.map (·.id)).Nodup ∧
      ((Batch.run Launch.options 1 1 (some Launch.spellings)).perform
        (Launch.start.through Launch.announced)).1 = .ok Launch.answers := by
    decide +kernel
  have spelled : Launch.spellings.mapM Json.toInteger = .ok [7, 2, 1, 1, 2, 7] := by
    decide +kernel
  generalize Launch.start.through Launch.announced = office at *
  obtain ⟨keyed, reported⟩ := facts
  obtain ⟨later, done⟩ := Work.exists_perform_eq reported
  obtain ⟨-, -, listed, -⟩ := Batch.everybody_is_answered_once keyed done
  obtain ⟨requested, related, -, answered⟩ := listed _ rfl
  cases spelled.symm.trans (mapM_eq_ok_iff.2 related)
  exact ⟨keyed, reported, rfl, answered⟩

end Issuance
