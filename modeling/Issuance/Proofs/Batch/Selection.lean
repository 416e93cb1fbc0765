import Mathlib.Data.List.Nodup
import Mathlib.Data.List.Perm.Basic
import Issuance.Batch.Selection
import Issuance.Proofs.Placeholders
import Issuance.Proofs.Work
/-!
Who is selected for a batch: some of the eligible registrations, and for every other requested id
a result that tells why it does not take part.
-/

namespace Issuance

private theorem map_fst_filterMap {α β : Type} (g : α → Option β) (xs : List α) :
    (xs.filterMap fun x => (g x).map fun y => (x, y)).map Prod.fst =
      xs.filter fun x => (g x).isSome := by
  induction xs with
  | nil => rfl
  | cons first rest ih =>
      cases found : g first with
      | none =>
          rw [List.filterMap_cons_none (by rw [found]; rfl), List.filter_cons_of_neg, ih]
          rw [found]
          exact Bool.false_ne_true
      | some y =>
          rw [List.filterMap_cons_some (by rw [found]; rfl), List.map_cons, List.filter_cons_of_pos,
            ih]
          rw [found]
          rfl

namespace Ledger

/-- The eligible registrations of an event are those of its confirmed registrations that are
checked in, put into another order. -/
theorem eligible_perm (l : Ledger) (eventId : Int) :
    (l.eligible eventId).Perm
      ((l.registrations.filter fun r => r.eventId == eventId && r.status == eligibleStatus).filter
        fun r => ((l.attendance? r.id).map (·.checkedInAt)).isSome) := by
  unfold eligible attendees
  refine ((List.mergeSort_perm _ cameBefore).map _).trans ?_
  have first := map_fst_filterMap (fun r : Registration => (l.attendance? r.id).map (·.checkedInAt))
    (l.registrations.filter fun r => r.eventId == eventId && r.status == eligibleStatus)
  simp only [Option.map_map, Function.comp_def] at first
  rw [first]

theorem mem_eligible {l : Ledger} {eventId : Int} {r : Registration} :
    r ∈ l.eligible eventId ↔ r ∈ l.registrations ∧ r.eventId = eventId ∧ l.isEligible r = true := by
  rw [(l.eligible_perm eventId).mem_iff, List.mem_filter, List.mem_filter, Option.isSome_map]
  simp only [isEligible, Bool.and_eq_true, beq_iff_eq, and_assoc]

theorem nodup_ids_eligible {l : Ledger} (distinct : (l.registrations.map (·.id)).Nodup)
    (eventId : Int) : ((l.eligible eventId).map (·.id)).Nodup := by
  refine ((l.eligible_perm eventId).map (·.id)).nodup_iff.2 ?_
  exact distinct.sublist ((List.filter_sublist.trans List.filter_sublist).map _)

end Ledger

namespace Batch

theorem looks_checkIds (ids : List Int) : (checkIds ids).Looks := by
  induction ids with
  | nil => exact Work.looks_pure _
  | cons id rest ih => exact (looks_checkId id).bind fun _ => ih

theorem looks_select (eventId : Int) (request : Option (List Json)) :
    (select eventId request).Looks := by
  unfold select
  refine Work.looks_ledger.bind fun l => ?_
  cases request with
  | none => exact Work.looks_pure _
  | some raws =>
      refine (Work.looks_ofFailure _).bind fun requested => ?_
      exact (looks_checkIds _).bind fun _ => Work.looks_pure _

theorem participantId_rejection (l : Ledger) (eventId id : Int) :
    (rejection l eventId id).participantId = id := by
  unfold rejection
  cases l.registration? id with
  | none => rfl
  | some r =>
      simp only
      split <;> rfl

/-- The result of an id that does not take part says so, and that nothing was begun for it. -/
theorem outcome_rejection (l : Ledger) (eventId id : Int) :
    ∃ e, (rejection l eventId id).outcome = .setback ⟨.error e, .notStarted⟩ ∧
      e.kind = .notEligible := by
  unfold rejection
  cases l.registration? id with
  | none => exact ⟨_, rfl, rfl⟩
  | some r =>
      simp only
      split <;> exact ⟨_, rfl, rfl⟩

theorem isSuccess_rejection (l : Ledger) (eventId id : Int) :
    (rejection l eventId id).outcome.isSuccess = false := by
  obtain ⟨e, refused, -⟩ := outcome_rejection l eventId id
  rw [refused]
  rfl

theorem requestedId_eq_ok_iff {raw : Json} {id : Int} :
    requestedId raw = .ok id ↔ raw.toInteger = .ok id := by
  unfold requestedId
  cases raw.toInteger with
  | ok other => exact Iff.of_eq (by rw [Except.ok.injEq, Except.ok.injEq])
  | error fault => cases fault <;> exact ⟨nofun, nofun⟩

/-- The requested ids are read off the values one by one, and each is kept once. -/
theorem requestedIds_eq_ok_iff {raws : List Json} {ids : List Int} :
    requestedIds raws = .ok ids ↔
      ∃ read, List.Forall₂ (fun raw id => raw.toInteger = .ok id) raws read ∧ ids = distinct read := by
  have each : ∀ read, raws.mapM requestedId = .ok read ↔
      List.Forall₂ (fun raw id => raw.toInteger = .ok id) raws read := by
    intro read
    simp only [mapM_eq_ok_iff, requestedId_eq_ok_iff]
  unfold requestedIds
  constructor
  · intro done
    cases read : raws.mapM requestedId with
    | error failure =>
        rw [read] at done
        cases done
    | ok values =>
        rw [read] at done
        exact ⟨values, (each values).1 read, (Except.ok.inj done).symm⟩
  · rintro ⟨values, read, rfl⟩
    rw [(each values).2 read]
    rfl

theorem mem_of_requestedIds {raws : List Json} {ids : List Int} (read : requestedIds raws = .ok ids)
    {id : Int} : id ∈ ids ↔ ∃ raw ∈ raws, raw.toInteger = .ok id := by
  obtain ⟨values, related, rfl⟩ := requestedIds_eq_ok_iff.1 read
  rw [mem_distinct]
  constructor
  · exact exists_of_mem_right related
  · rintro ⟨raw, member, same⟩
    obtain ⟨value, present, other⟩ := exists_of_mem_left related member
    cases same.symm.trans other
    exact present

theorem exists_requestedIds {raws : List Json}
    (readable : ∀ raw ∈ raws, ∃ id, raw.toInteger = .ok id) :
    ∃ ids, requestedIds raws = .ok ids := by
  have values : ∃ read, List.Forall₂ (fun raw id => raw.toInteger = .ok id) raws read := by
    induction raws with
    | nil => exact ⟨[], .nil⟩
    | cons raw rest ih =>
        obtain ⟨id, here⟩ := readable raw List.mem_cons_self
        obtain ⟨others, later⟩ := ih fun other member => readable other (List.mem_cons_of_mem _ member)
        exact ⟨id :: others, .cons here later⟩
  obtain ⟨read, related⟩ := values
  exact ⟨distinct read, requestedIds_eq_ok_iff.2 ⟨read, related, rfl⟩⟩

/-- The first value that is no id decides how a request is refused. -/
theorem requestedIds_of_split {before after : List Json} {raw : Json} {failure : Failure}
    (earlier : ∀ other ∈ before, ∃ id, other.toInteger = .ok id)
    (refused : requestedId raw = .error failure) :
    requestedIds (before ++ raw :: after) = .error failure := by
  have stops : (before ++ raw :: after).mapM requestedId = .error failure := by
    refine mapM_eq_error (fun other member => ?_) refused
    obtain ⟨id, here⟩ := earlier other member
    exact ⟨id, requestedId_eq_ok_iff.2 here⟩
  unfold requestedIds
  rw [stops]
  rfl

theorem perform_checkIds {ids : List Int} (inTables : ∀ id ∈ ids, -idBound ≤ id ∧ id < idBound)
    (office : Office) : (checkIds ids).perform office = (.ok (), office) := by
  induction ids with
  | nil => rfl
  | cons id rest ih =>
      rw [checkIds, Work.perform_bind_of_ok (perform_checkId (inTables id List.mem_cons_self) office)]
      exact ih fun other member => inTables other (List.mem_cons_of_mem _ member)

theorem perform_checkIds_of_outside {ids : List Int} {id : Int} (member : id ∈ ids)
    (outside : ¬IsInTables id) (office : Office) :
    (checkIds ids).perform office = (.error idTooLarge, office) := by
  induction ids with
  | nil => cases member
  | cons first rest ih =>
      rw [checkIds]
      by_cases here : IsInTables first
      · rw [Work.perform_bind_of_ok (perform_checkId here office)]
        rcases List.mem_cons.1 member with rfl | later
        · exact absurd here outside
        · exact ih later
      · exact Work.perform_bind_of_error (perform_checkId_of_outside here office) _

/-- The eligible registrations that are asked for. -/
def asked (l : Ledger) (eventId : Int) (ids : List Int) : List Registration :=
  (l.eligible eventId).filter fun r => ids.contains r.id

/-- The ids that are asked for and do not take part. -/
def unmet (l : Ledger) (eventId : Int) (ids : List Int) : List Int :=
  ids.filter fun id => !((asked l eventId ids).map (·.id)).contains id

theorem perform_select {raws : List Json} {ids : List Int} (read : requestedIds raws = .ok ids)
    (eventId : Int) (office : Office) :
    (select eventId (some raws)).perform office =
      match ((checkIds (unmet office.ledger eventId ids)).perform office).1 with
      | .error failure => (.error failure, office)
      | .ok _ => (.ok (asked office.ledger eventId ids,
          (unmet office.ledger eventId ids).map (rejection office.ledger eventId)), office) := by
  unfold select
  rw [Work.perform_bind_of_ok (Work.perform_ledger office)]
  simp only
  rw [read, Work.perform_bind_of_ok (Work.perform_ofFailure (.ok ids) office)]
  obtain ⟨checked, same⟩ := (looks_checkIds (unmet office.ledger eventId ids)).perform office
  rw [Work.perform_bind, same]
  unfold unmet asked at same
  rw [same]
  cases checked <;> rfl

theorem perform_select_of_error {raws : List Json} {failure : Failure}
    (refused : requestedIds raws = .error failure) (eventId : Int) (office : Office) :
    (select eventId (some raws)).perform office = (.error failure, office) := by
  unfold select
  rw [Work.perform_bind_of_ok (Work.perform_ledger office)]
  simp only
  rw [refused, Work.perform_bind_of_error (Work.perform_ofFailure (.error failure) office)]

/-- Who is selected: everybody who is eligible, or of these whoever is asked for. -/
theorem select_eq_ok_iff {eventId : Int} {request : Option (List Json)} {office : Office}
    {participants : List Registration} {rejected : List Result} :
    (select eventId request).perform office = (.ok (participants, rejected), office) ↔
      (request = none ∧ participants = office.ledger.eligible eventId ∧ rejected = []) ∨
        ∃ raws ids, request = some raws ∧ requestedIds raws = .ok ids ∧
          participants = asked office.ledger eventId ids ∧
          rejected = (unmet office.ledger eventId ids).map (rejection office.ledger eventId) ∧
          (checkIds (unmet office.ledger eventId ids)).perform office = (.ok (), office) := by
  cases request with
  | none =>
      have all : (select eventId none).perform office =
          (.ok (office.ledger.eligible eventId, []), office) := rfl
      rw [all]
      constructor
      · intro same
        cases same
        exact Or.inl ⟨rfl, rfl, rfl⟩
      · rintro (⟨-, rfl, rfl⟩ | ⟨raws, ids, impossible, -⟩)
        · rfl
        · cases impossible
  | some raws =>
      cases read : requestedIds raws with
      | error failure =>
          rw [perform_select_of_error read]
          constructor
          · intro impossible
            cases impossible
          · rintro (⟨impossible, -⟩ | ⟨_, ids, same, other, -⟩)
            · cases impossible
            · cases same
              cases read.symm.trans other
      | ok ids =>
          rw [perform_select read]
          obtain ⟨checked, same⟩ :=
            (looks_checkIds (unmet office.ledger eventId ids)).perform office
          rw [same]
          constructor
          · intro done
            cases checked with
            | error failure => cases done
            | ok _ =>
                cases done
                exact Or.inr ⟨raws, ids, rfl, read, rfl, rfl, same⟩
          · rintro (⟨impossible, -⟩ | ⟨_, others, again, other, rfl, rfl, passed⟩)
            · cases impossible
            · cases again
              cases read.symm.trans other
              rw [same] at passed
              cases passed
              rfl

/-- The participants are eligible, and the others are rejected one by one. -/
theorem select_cases {eventId : Int} {request : Option (List Json)} {office : Office}
    {participants : List Registration} {rejected : List Result}
    (selected : (select eventId request).perform office = (.ok (participants, rejected), office)) :
    participants.Sublist (office.ledger.eligible eventId) ∧
      ∀ result ∈ rejected, ∃ id, id ∉ participants.map (·.id) ∧
        result = rejection office.ledger eventId id := by
  rcases select_eq_ok_iff.1 selected with ⟨-, rfl, rfl⟩ | ⟨raws, ids, -, -, rfl, rfl, -⟩
  · exact ⟨List.Sublist.refl _, fun _ none => absurd none List.not_mem_nil⟩
  · refine ⟨List.filter_sublist, ?_⟩
    intro result member
    obtain ⟨id, other, rfl⟩ := List.mem_map.1 member
    refine ⟨id, ?_, rfl⟩
    have absent := (List.mem_filter.1 other).2
    simpa only [Bool.not_eq_true', List.contains_eq_mem, decide_eq_false_iff_not] using absent

end Batch
end Issuance
