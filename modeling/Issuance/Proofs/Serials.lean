import Issuance.Proofs.Batch.Report
import Issuance.Proofs.Rows
/-!
Serial numbers. The certificates of an event are numbered upwards in the order in which they were
issued, and a batch goes on after the highest number: every participant takes the next number,
except those who turn out to hold a certificate.
-/

namespace Issuance
namespace Ledger

/-- The rows are in the order of their ids, and in each event the serial numbers go up with them. -/
structure IsNumbered (l : Ledger) : Prop where
  ids : l.issues.Pairwise fun c d => c.id < d.id
  positive : ∀ c ∈ l.issues, 0 < c.serial
  serials : l.issues.Pairwise fun c d => c.eventId = d.eventId → c.serial < d.serial

/-- The highest serial number of an event, or 0 if nothing was issued for it. -/
def highestSerial (l : Ledger) (eventId : Int) : Int :=
  ((l.certificates.filter (·.eventId == eventId)).map (·.serial)).max?.getD 0

theorem isNumbered_empty : empty.IsNumbered :=
  ⟨List.Pairwise.nil, fun _ none => absurd none List.not_mem_nil, List.Pairwise.nil⟩

theorem IsNumbered.of_issues_eq {l later : Ledger} (numbered : l.IsNumbered)
    (same : later.issues = l.issues) : later.IsNumbered := by
  obtain ⟨ids, positive, serials⟩ := numbered
  constructor
  · rw [same]
    exact ids
  · rw [same]
    exact positive
  · rw [same]
    exact serials

theorem issues_withEntered (l : Ledger) (c : Certificate) :
    (l.withEntered c).issues = l.issues ++ [(l.entered c).issue] := by
  rw [issues, withEntered, List.map_append]
  rfl

theorem IsNumbered.withEntered {l : Ledger} (numbered : l.IsNumbered) {c : Certificate}
    (positive : 0 < c.serial)
    (above : ∀ d ∈ l.certificates, d.eventId = c.eventId → d.serial < c.serial) :
    (l.withEntered c).IsNumbered := by
  constructor
  · rw [issues_withEntered, List.pairwise_append]
    refine ⟨numbered.ids, List.pairwise_singleton _ _, ?_⟩
    intro d member last isLast
    obtain ⟨row, present, rfl⟩ := List.mem_map.1 member
    rw [List.mem_singleton.1 isLast]
    exact lt_nextId (List.mem_map_of_mem (f := (·.id)) present)
  · intro d member
    rw [issues_withEntered] at member
    rcases List.mem_append.1 member with older | last
    · exact numbered.positive d older
    · rw [List.mem_singleton.1 last]
      exact positive
  · rw [issues_withEntered, List.pairwise_append]
    refine ⟨numbered.serials, List.pairwise_singleton _ _, ?_⟩
    intro d member last isLast
    obtain ⟨row, present, rfl⟩ := List.mem_map.1 member
    rw [List.mem_singleton.1 isLast]
    exact above row present

/-- In each event, ids and serial numbers are in the same order. -/
theorem IsNumbered.id_lt_iff {l : Ledger} (numbered : l.IsNumbered) {c d : Certificate}
    (first : c ∈ l.certificates) (second : d ∈ l.certificates) (sameEvent : c.eventId = d.eventId) :
    c.id < d.id ↔ c.serial < d.serial := by
  have agree : ∀ a ∈ l.issues, ∀ b ∈ l.issues, a.eventId = b.eventId →
      (a.id < b.id ↔ a.serial < b.serial) := by
    refine List.Pairwise.forall_of_forall_of_flip (fun _ _ _ => ?_) ?_ ?_
    · constructor <;> intro below <;> omega
    · refine (numbered.ids.and numbered.serials).imp ?_
      rintro a b ⟨ids, serials⟩ same
      exact ⟨fun _ => serials same, fun _ => ids⟩
    · refine (numbered.ids.and numbered.serials).imp ?_
      rintro a b ⟨ids, serials⟩ same
      have upwards := serials same.symm
      constructor <;> intro below <;> omega
  exact agree c.issue (List.mem_map_of_mem first) d.issue (List.mem_map_of_mem second) sameEvent

/-- The certificates of an event are listed as they were entered. -/
theorem IsNumbered.certificatesOf_eq {l : Ledger} (numbered : l.IsNumbered) (eventId : Int) :
    l.certificatesOf eventId = l.certificates.filter (·.eventId == eventId) := by
  refine List.mergeSort_of_pairwise ?_
  have upwards := (List.pairwise_map.1 numbered.serials).filter (·.eventId == eventId)
  refine upwards.imp_of_mem ?_
  intro c d first second above
  have same : c.eventId = d.eventId :=
    (eq_of_beq (List.mem_filter.1 first).2).trans (eq_of_beq (List.mem_filter.1 second).2).symm
  rw [Bool.or_eq_true, decide_eq_true_eq]
  exact Or.inl (above same)

theorem nextSerial_eq (l : Ledger) (eventId : Int) :
    l.nextSerial eventId = 1 + l.highestSerial eventId := by
  unfold nextSerial highestSerial
  cases ((l.certificates.filter (·.eventId == eventId)).map (·.serial)).max? with
  | none => rfl
  | some highest => exact Int.add_comm highest 1

theorem serial_le_highestSerial {l : Ledger} {c : Certificate} (member : c ∈ l.certificates) :
    c.serial ≤ l.highestSerial c.eventId := by
  have listed : c.serial ∈
      (l.certificates.filter (·.eventId == c.eventId)).map (·.serial) :=
    List.mem_map_of_mem (List.mem_filter.2 ⟨member, beq_self_eq_true c.eventId⟩)
  unfold highestSerial
  cases highest : ((l.certificates.filter (·.eventId == c.eventId)).map (·.serial)).max? with
  | none =>
      rw [List.max?_eq_none_iff] at highest
      rw [highest] at listed
      cases listed
  | some serial => exact (List.max?_eq_some_iff.1 highest).2 c.serial listed

/-- The highest serial number is that of a certificate, if there is one. -/
theorem exists_serial_eq_highestSerial {l : Ledger} {eventId : Int}
    (some : ∃ c ∈ l.certificates, c.eventId = eventId) :
    ∃ c ∈ l.certificates, c.eventId = eventId ∧ c.serial = l.highestSerial eventId := by
  obtain ⟨c, member, ofEvent⟩ := some
  unfold highestSerial
  cases highest : ((l.certificates.filter (·.eventId == eventId)).map (·.serial)).max? with
  | none =>
      rw [List.max?_eq_none_iff, List.map_eq_nil_iff, List.filter_eq_nil_iff] at highest
      exact absurd (beq_iff_eq.2 ofEvent) (highest c member)
  | some serial =>
      obtain ⟨d, listed, same⟩ := List.mem_map.1 (List.max?_eq_some_iff.1 highest).1
      obtain ⟨present, hers⟩ := List.mem_filter.1 listed
      exact ⟨d, present, eq_of_beq hers, same⟩

theorem IsNumbered.nextSerial_pos {l : Ledger} (numbered : l.IsNumbered) (eventId : Int) :
    0 < l.nextSerial eventId := by
  rw [nextSerial_eq]
  by_cases some : ∃ c ∈ l.certificates, c.eventId = eventId
  · obtain ⟨c, member, -, same⟩ := exists_serial_eq_highestSerial some
    have positive : 0 < c.serial := numbered.positive c.issue (List.mem_map_of_mem member)
    omega
  · have none : l.certificates.filter (·.eventId == eventId) = [] := by
      rw [List.filter_eq_nil_iff]
      exact fun c member ofEvent => some ⟨c, member, eq_of_beq ofEvent⟩
    rw [highestSerial, none]
    decide

end Ledger

namespace Batch

/-- A batch that begins above all serial numbers of its event keeps the numbering. -/
theorem isNumbered_issueAll (commission : Commission) {serial : Int} (positive : 0 < serial)
    (participants : List Registration) {office : Office} (sound : office.Sound)
    (numbered : office.ledger.IsNumbered)
    (above : ∀ c ∈ office.ledger.certificates, c.eventId = commission.event.id →
      c.serial < serial) :
    (issueAll commission serial participants office).2.ledger.IsNumbered := by
  induction participants generalizing serial office with
  | nil => exact numbered
  | cons registration rest ih =>
      have completed : Completed commission ⟨registration, serial⟩ office _ _ :=
        Attempt.completed_complete sound
      have later := completed.sound sound
      simp only [issueAll]
      generalize Attempt.complete commission ⟨registration, serial⟩ office = done at completed later ⊢
      obtain ⟨outcome, between⟩ := done
      cases completed with
      | issued codes artifact place =>
          refine ih (Int.lt_trans positive (Int.lt_succ serial)) later
            (numbered.withEntered positive above) ?_
          intro c member ofEvent
          rcases List.mem_append.1 member with older | last
          · exact Int.lt_trans (above c older ofEvent) (Int.lt_succ serial)
          · rw [List.mem_singleton.1 last]
            exact Int.lt_succ serial
      | setback failure progress =>
          refine ih ?_ later numbered ?_
          · split <;> omega
          · intro c member ofEvent
            have below := above c member ofEvent
            split <;> omega

/-- A turn has the first serial number of the batch, raised by one for every earlier turn in which
the participant did not hold a certificate. -/
theorem serial_of_turns_eq {commission : Commission} {serial : Int}
    {participants : List Registration} {office : Office} {before after : List Turn} {turn : Turn}
    (split : turns commission serial participants office = before ++ turn :: after) :
    turn.candidate.serial =
      serial + before.countP fun earlier => !(earlier.outcome commission).isAlreadyIssued := by
  induction participants generalizing serial office before with
  | nil =>
      rw [turns] at split
      exact absurd split.symm (List.append_ne_nil_of_right_ne_nil before (List.cons_ne_nil _ _))
  | cons registration rest ih =>
      simp only [turns] at split
      cases before with
      | nil =>
          obtain ⟨same, -⟩ := List.cons.inj split
          rw [← same, List.countP_nil]
          exact (Int.add_zero serial).symm
      | cons first others =>
          obtain ⟨same, remaining⟩ := List.cons.inj split
          have outcome : first.outcome commission =
              (Attempt.complete commission ⟨registration, serial⟩ office).1 := by
            rw [← same, Turn.outcome]
          rw [ih remaining, List.countP_cons, outcome]
          cases (Attempt.complete commission ⟨registration, serial⟩ office).1.isAlreadyIssued with
          | true => simp only [Bool.not_true, if_true, Bool.false_eq_true, if_false, Nat.add_zero]
          | false =>
              simp only [Bool.not_false, if_true, Bool.false_eq_true, if_false]
              omega

theorem Turn.serial_of_success {commission : Commission} {turn : Turn} (sound : turn.office.Sound)
    {success : Success} (succeeded : turn.outcome commission = .success success) :
    success.serial = turn.candidate.serial := by
  have completed : Completed commission turn.candidate turn.office (turn.outcome commission)
    (turn.after commission) := Attempt.completed_complete sound
  rw [succeeded] at completed
  generalize turn.after commission = later at completed
  cases completed with
  | issued => rfl

/-- A successful result of a batch is that of a turn, after the turns of the earlier results. -/
theorem exists_turn_of_split {commission : Commission} {turns : List Turn}
    {earlier rejected later : List Result} {result : Result} {l : Ledger} {eventId : Int}
    (rejections : ∀ other ∈ rejected, ∃ id, other = rejection l eventId id)
    (split : turns.map (Turn.result commission) ++ rejected = earlier ++ result :: later)
    {success : Success} (succeeded : result.outcome = .success success) :
    ∃ before turn after, turns = before ++ turn :: after ∧
      earlier = before.map (Turn.result commission) ∧ turn.outcome commission = .success success := by
  have accepted : result ∉ rejected := by
    intro member
    obtain ⟨id, rfl⟩ := rejections result member
    have refused := isSuccess_rejection l eventId id
    rw [succeeded] at refused
    cases refused
  rcases List.append_eq_append_iff.1 split with ⟨others, -, same⟩ | ⟨others, same, rest⟩
  · exact absurd (same ▸ List.mem_append_right others List.mem_cons_self) accepted
  · obtain ⟨before, remaining, rfl, rfl, mapped⟩ := List.map_eq_append_iff.1 same
    cases remaining with
    | nil =>
        rw [List.map_nil] at mapped
        rw [← mapped, List.nil_append] at rest
        exact absurd (rest ▸ List.mem_cons_self) accepted
    | cons turn after =>
        rw [← mapped, List.map_cons, List.cons_append] at rest
        obtain ⟨rfl, -⟩ := List.cons.inj rest
        exact ⟨before, turn, after, rfl, rfl, succeeded⟩

/-- A success carries the number after the highest one of its event and after those that the
earlier participants of the batch have taken. -/
theorem serial_of_run {options : Options} {eventId templateId : Int} {request : Option (List Json)}
    {office after : Office} {results earlier later : List Result} {result : Result}
    {success : Success} (sound : office.Sound)
    (done : (run options eventId templateId request).perform office = (.ok results, after))
    (split : results = earlier ++ result :: later)
    (succeeded : result.outcome = .success success) :
    success.serial = 1 + office.ledger.highestSerial eventId +
      earlier.countP fun other => !other.outcome.isAlreadyIssued := by
  obtain ⟨template, event, source, participants, rejected, rows, opened, rfl, -⟩ :=
    effect_run sound done
  have rejections : ∀ other ∈ rejected, ∃ id, other = rejection office.ledger event.id id := by
    intro other member
    obtain ⟨id, -, same⟩ := (select_cases opened.selected).2 other member
    exact ⟨id, same⟩
  have sounds := sound_turns (options.commission template event source)
    (office.ledger.nextSerial event.id) participants sound
  obtain ⟨before, turn, rest, whole, rfl, outcome⟩ :=
    exists_turn_of_split rejections split succeeded
  have present : turn ∈ turns (options.commission template event source)
      (office.ledger.nextSerial event.id) participants office := by
    rw [whole]
    exact List.mem_append_right before List.mem_cons_self
  rw [Turn.serial_of_success (sounds turn present) outcome, serial_of_turns_eq whole,
    Ledger.nextSerial_eq, opened.event_id, List.countP_map]
  rfl

end Batch

namespace Office

theorem isNumbered_generate (options : Batch.Options) (event template : Int)
    (request : Option (List Json)) {office : Office} (sound : office.Sound)
    (numbered : office.ledger.IsNumbered) :
    ((Operation.generate options event template request).work.after office).ledger.IsNumbered := by
  rw [Operation.work, Work.after_bind_pure, Work.after]
  rcases Batch.run_cases options event template request office with
    ⟨failure, refused⟩ | ⟨found, held, source, participants, rejected, -, issued⟩
  · rw [refused]
    exact numbered
  · rw [issued]
    refine Batch.isNumbered_issueAll (options.commission found held source)
      (numbered.nextSerial_pos held.id) participants sound numbered ?_
    intro c member ofEvent
    have ofHeld : c.eventId = held.id := ofEvent
    have highest := Ledger.serial_le_highestSerial member
    rw [ofHeld] at highest
    rw [Ledger.nextSerial_eq]
    omega

theorem isNumbered_step {step : Step} {office : Office} (sound : office.Sound)
    (numbered : office.ledger.IsNumbered) : (step.run office).ledger.IsNumbered := by
  cases step with
  | change circumstances => exact numbered.of_issues_eq rfl
  | operation op =>
      by_cases idle : ∀ options event template request,
          op ≠ .generate options event template request
      · exact numbered.of_issues_eq (Operation.issues_work sound idle)
      · simp only [not_forall, not_not] at idle
        obtain ⟨options, event, template, request, rfl⟩ := idle
        exact isNumbered_generate options event template request sound numbered

theorem isNumbered_through {history : List Step} (ordinary : ∀ step ∈ history, Step.IsOrdinary step)
    {office : Office} (sound : office.Sound) (numbered : office.ledger.IsNumbered) :
    (office.through history).ledger.IsNumbered :=
  holds_through (P := fun office => office.ledger.IsNumbered) ordinary
    (fun _ _ _ => isNumbered_step) sound numbered

theorem IsReachable.isNumbered {office : Office} (reachable : office.IsReachable) :
    office.ledger.IsNumbered := by
  obtain ⟨start, history, fresh, ordinary, rfl⟩ := reachable
  refine isNumbered_through ordinary fresh.sound ?_
  obtain ⟨settings, vault, clock, -, rfl⟩ := fresh
  exact Ledger.isNumbered_empty

end Office

/-- In every reachable office, the serial numbers of an event are positive and go up with the ids,
so that its certificates are listed as they were issued; and a batch gives each success the number
after the highest one of the event, raised by one for every earlier participant who did not hold a
certificate. -/
theorem serials_ascend {office : Office} (reachable : office.IsReachable) :
    (∀ c ∈ office.ledger.certificates, 0 < c.serial) ∧
      (∀ c ∈ office.ledger.certificates, ∀ d ∈ office.ledger.certificates,
        c.eventId = d.eventId →
          (c.id < d.id ↔ c.serial < d.serial) ∧ (c.serial = d.serial → c = d)) ∧
      (∀ eventId, office.ledger.certificatesOf eventId =
          office.ledger.certificates.filter (·.eventId == eventId) ∧
        (office.ledger.certificatesOf eventId).Pairwise
          fun c d => c.id < d.id ∧ c.serial < d.serial) ∧
      ∀ (options : Batch.Options) (eventId templateId : Int) (request : Option (List Json))
        (results earlier later : List Batch.Result) (result : Batch.Result)
        (success : Batch.Success) (after : Office),
        (Batch.run options eventId templateId request).perform office = (.ok results, after) →
        results = earlier ++ result :: later → result.outcome = .success success →
          success.serial = 1 + office.ledger.highestSerial eventId +
            earlier.countP fun other => !other.outcome.isAlreadyIssued := by
  have numbered := reachable.isNumbered
  refine ⟨?_, ?_, ?_, ?_⟩
  · exact fun c member => numbered.positive c.issue (List.mem_map_of_mem member)
  · intro c first d second sameEvent
    have forward := numbered.id_lt_iff first second sameEvent
    have backward := numbered.id_lt_iff second first sameEvent.symm
    refine ⟨forward, fun sameSerial => ?_⟩
    refine List.inj_on_of_nodup_map reachable.sound.ledger.ids first second ?_
    omega
  · intro eventId
    have listed := numbered.certificatesOf_eq eventId
    refine ⟨listed, ?_⟩
    rw [listed]
    have upwards := (List.pairwise_map.1 (numbered.ids.and numbered.serials)).filter
      (·.eventId == eventId)
    refine upwards.imp_of_mem ?_
    rintro c d first second ⟨ids, serials⟩
    exact ⟨ids, serials ((eq_of_beq (List.mem_filter.1 first).2).trans
      (eq_of_beq (List.mem_filter.1 second).2).symm)⟩
  · intro options eventId templateId request results earlier later result success after done split
      succeeded
    exact Batch.serial_of_run reachable.sound done split succeeded

/-! After the launch a second guest comes, to whom the next number goes. -/

namespace Launch

def lateHistory : List Step :=
  history ++ [.operation (.generate options 1 1 none),
    .change { circumstances with registrations := [latecomer] },
    .operation (.checkIn latecomer none)]

theorem isReachable_through_lateHistory : (start.through lateHistory).IsReachable := by
  refine ⟨start, lateHistory, isFresh_start, ?_, rfl⟩
  intro step member
  rcases List.mem_append.1 member with early | late
  · exact isOrdinary_history step early
  · simp only [List.mem_cons, List.not_mem_nil, or_false] at late
    rcases late with rfl | rfl | rfl
    · trivial
    · exact ⟨isOrdinary_circumstances.codes, isOrdinary_circumstances.unrivalled⟩
    · trivial

def lateSuccess : Batch.Success :=
  ⟨2, ⟨"CERT-000000000002", "VERIFY-0000000000000002"⟩,
    "primary:certificates/1/2/CERT-000000000002.png", 2, false⟩

end Launch

theorem launch_serials_ascend :
    ((Batch.run Launch.options 1 1 none).perform (Launch.start.through Launch.lateHistory)).1 =
        .ok [⟨2, some "Ben", .success Launch.lateSuccess⟩] ∧
      (Launch.start.through Launch.lateHistory).ledger.highestSerial 1 = 1 ∧
      Launch.lateSuccess.serial =
        1 + (Launch.start.through Launch.lateHistory).ledger.highestSerial 1 + 0 := by
  have facts : ((Batch.run Launch.options 1 1 none).perform
      (Launch.start.through Launch.lateHistory)).1 =
        .ok [⟨2, some "Ben", .success Launch.lateSuccess⟩] ∧
      (Launch.start.through Launch.lateHistory).ledger.highestSerial 1 = 1 := by
    decide +kernel
  have reachable := Launch.isReachable_through_lateHistory
  generalize Launch.start.through Launch.lateHistory = office at *
  obtain ⟨reported, highest⟩ := facts
  obtain ⟨after, done⟩ := Work.exists_perform_eq reported
  obtain ⟨-, -, -, next⟩ := serials_ascend reachable
  refine ⟨reported, highest, ?_⟩
  exact next _ _ _ _ _ [] [] _ _ _ done rfl rfl

end Issuance
