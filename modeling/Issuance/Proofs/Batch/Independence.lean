import Issuance.Proofs.Batch.Production
import Issuance.Proofs.Batch.Runs
import Issuance.Proofs.Batch.Selection
import Issuance.Proofs.History
/-!
The participants of a batch do not influence each other. What comes of one of them is what would
have come of it alone, with the serial number and the codes that fall to it, whoever came before and
whatever became of them.
-/

namespace Issuance

/-- The pairs that a supply gives next, one after the other. -/
def CodeSupply.Gives : CodeSupply → List CodePair → Prop
  | _, [] => True
  | supply, pair :: pairs => ∃ later, supply.next = some (pair, later) ∧ CodeSupply.Gives later pairs

/-- Pairs of which no two share a code. -/
structure CodePair.AreApart (pairs : List CodePair) : Prop where
  certificates : (pairs.map (·.certificate)).Nodup
  verifications : (pairs.map (·.verification)).Nodup

theorem CodePair.AreApart.tail {pair : CodePair} {pairs : List CodePair}
    (apart : AreApart (pair :: pairs)) : AreApart pairs :=
  ⟨(List.nodup_cons.1 apart.certificates).2, (List.nodup_cons.1 apart.verifications).2⟩

theorem CodePair.AreApart.ne {pair other : CodePair} {pairs : List CodePair}
    (apart : AreApart (pair :: pairs)) (member : other ∈ pairs) :
    pair.certificate ≠ other.certificate ∧ pair.verification ≠ other.verification := by
  constructor
  · intro same
    have shared := List.mem_map_of_mem (f := (·.certificate)) member
    rw [← same] at shared
    exact (List.nodup_cons.1 apart.certificates).1 shared
  · intro same
    have shared := List.mem_map_of_mem (f := (·.verification)) member
    rw [← same] at shared
    exact (List.nodup_cons.1 apart.verifications).1 shared

theorem CodePair.AreApart.ne_of_split {pair other : CodePair} {pairs front back : List CodePair}
    (apart : AreApart pairs) (split : pairs = front ++ pair :: back) (member : other ∈ front) :
    other.certificate ≠ pair.certificate ∧ other.verification ≠ pair.verification := by
  obtain ⟨certificates, verifications⟩ := apart
  rw [split, List.map_append, List.map_cons, List.nodup_append] at certificates verifications
  constructor
  · exact certificates.2.2 _ (List.mem_map_of_mem member) _ List.mem_cons_self
  · exact verifications.2.2 _ (List.mem_map_of_mem member) _ List.mem_cons_self

theorem CodeSupply.isGenerated_of_gives {supply : CodeSupply} {pairs : List CodePair}
    (generated : supply.IsGenerated) (gives : supply.Gives pairs) :
    ∀ pair ∈ pairs, pair.IsGenerated := by
  induction pairs generalizing supply with
  | nil => exact fun _ none => absurd none List.not_mem_nil
  | cons first rest ih =>
      obtain ⟨later, drawn, remaining⟩ := gives
      have both := isGenerated_of_next generated drawn
      intro pair member
      rcases List.mem_cons.1 member with rfl | further
      · exact both.1
      · exact ih both.2 remaining pair further

namespace Batch

/-- No failure that is about to happen poses as that of a participant who holds a certificate. -/
def HasNoFeignedConflicts (office : Office) : Prop :=
  ∀ entry ∈ office.disturbances, ∀ failure, entry.2 = .failure failure → ¬failure.IsAlreadyIssued

/-- Whatever is about to happen is about to happen to one participant only. -/
def HasOwnDisturbances (commission : Commission) (participants : List Registration)
    (office : Office) : Prop :=
  ∀ entry ∈ office.disturbances, ∀ p ∈ participants, ∀ q ∈ participants,
    commission.nameFor p = entry.1 → commission.nameFor q = entry.1 → p = q

/-- How many participants hold no certificate yet. -/
def countFree (commission : Commission) (office : Office) (participants : List Registration) : Nat :=
  participants.countP fun r => !office.ledger.holds commission.event.id r.id

theorem countFree_cons_of_held {commission : Commission} {office : Office}
    {registration : Registration} (rest : List Registration)
    (held : office.ledger.holds commission.event.id registration.id = true) :
    countFree commission office (registration :: rest) = countFree commission office rest := by
  apply List.countP_cons_of_neg
  rw [held]
  exact Bool.false_ne_true

theorem countFree_cons_of_free {commission : Commission} {office : Office}
    {registration : Registration} (rest : List Registration)
    (free : office.ledger.holds commission.event.id registration.id = false) :
    countFree commission office (registration :: rest) = countFree commission office rest + 1 := by
  apply List.countP_cons_of_pos
  rw [free]
  rfl

/-- What some participants leave behind for those after them: certificates with the pairs of codes
that they have used up, and otherwise the office as it was. -/
structure Follows (commission : Commission) (front : List Registration) (spent : List CodePair)
    (office later : Office) : Prop where
  settings : later.settings = office.settings
  clock : later.clock = office.clock
  attendances : later.ledger.attendances = office.ledger.attendances
  kept : ∀ c ∈ office.ledger.certificates, c ∈ later.ledger.certificates
  rows : ∀ c ∈ later.ledger.certificates, c ∈ office.ledger.certificates ∨
    c.registrationId ∈ front.map (·.id) ∧ c.codes ∈ spent
  pending : ∀ entry ∈ later.disturbances, entry ∈ office.disturbances
  disturbances : ∀ name, (∀ r ∈ front, commission.nameFor r ≠ name) →
    Assoc.get? name later.disturbances = Assoc.get? name office.disturbances
  vault : HasOnlyIssued office.vault later.vault

namespace Follows

variable {commission : Commission} {front more : List Registration} {spent : List CodePair}
  {office between later : Office}

theorem refl (front : List Registration) (office : Office) :
    Follows commission front [] office office where
  settings := rfl
  clock := rfl
  attendances := rfl
  kept := fun _ member => member
  rows := fun _ member => Or.inl member
  pending := fun _ member => member
  disturbances := fun _ _ => rfl
  vault := Storage.Vault.Fills.refl _

theorem trans {spent' : List CodePair} (first : Follows commission front spent office between)
    (second : Follows commission more spent' between later) :
    Follows commission (front ++ more) (spent ++ spent') office later where
  settings := second.settings.trans first.settings
  clock := second.clock.trans first.clock
  attendances := second.attendances.trans first.attendances
  kept := fun c member => second.kept c (first.kept c member)
  rows := by
    intro c member
    rw [List.map_append, List.mem_append, List.mem_append]
    rcases second.rows c member with older | ⟨holder, codes⟩
    · rcases first.rows c older with oldest | ⟨holder, codes⟩
      · exact Or.inl oldest
      · exact Or.inr ⟨Or.inl holder, Or.inl codes⟩
    · exact Or.inr ⟨Or.inr holder, Or.inr codes⟩
  pending := fun entry member => first.pending entry (second.pending entry member)
  disturbances := by
    intro name others
    have behind := second.disturbances name fun r member => others r (List.mem_append_right _ member)
    exact behind.trans (first.disturbances name fun r member =>
      others r (List.mem_append_left _ member))
  vault := first.vault.trans second.vault

/-- Whether a participant holds a certificate is not changed by others. -/
theorem holds_eq (follows : Follows commission front spent office later) (eventId : Int)
    {registration : Registration} (absent : registration.id ∉ front.map (·.id)) :
    later.ledger.holds eventId registration.id = office.ledger.holds eventId registration.id := by
  rw [Bool.eq_iff_iff]
  constructor
  · intro held
    obtain ⟨c, member, ofEvent, ofRegistration⟩ := Ledger.holds_iff.1 held
    rcases follows.rows c member with older | ⟨holder, -⟩
    · exact Ledger.holds_iff.2 ⟨c, older, ofEvent, ofRegistration⟩
    · exact absurd (ofRegistration ▸ holder) absent
  · exact Ledger.holds_mono follows.kept

theorem countFree_eq (follows : Follows commission front spent office later)
    {rest : List Registration} (absent : ∀ r ∈ rest, r.id ∉ front.map (·.id)) :
    countFree commission later rest = countFree commission office rest := by
  apply List.countP_congr
  intro r member
  rw [follows.holds_eq commission.event.id (absent r member)]

theorem codesTaken_eq_false (follows : Follows commission front spent office later)
    {codes : CodePair} (unused : office.ledger.codesTaken codes = false)
    (others : ∀ pair ∈ spent, pair.certificate ≠ codes.certificate ∧
      pair.verification ≠ codes.verification) : later.ledger.codesTaken codes = false := by
  rw [Bool.eq_false_iff]
  intro taken
  obtain ⟨c, member, shared⟩ := Ledger.codesTaken_iff.1 taken
  rcases follows.rows c member with older | ⟨-, used⟩
  · rw [Ledger.codesTaken_iff.2 ⟨c, older, shared⟩] at unused
    cases unused
  · rcases shared with certificate | verification
    · exact (others c.codes used).1 certificate
    · exact (others c.codes used).2 verification

/-- To a participant who has not had a turn yet, the office is as it was. -/
theorem alike (follows : Follows commission front spent office later) (sound : office.Sound)
    (after : later.Sound) {registration : Registration} {participants : List Registration}
    (own : HasOwnDisturbances commission participants office)
    (among : registration ∈ participants) (others : front ⊆ participants)
    (absent : registration ∉ front)
    (outside : ∀ ref ∈ commission.source.refs, ∀ store path,
      office.vault.location? ref = some (store, path) → ¬Storage.IsWithin artifactTop path) :
    Alike commission registration office later where
  settings := follows.settings
  clock := follows.clock
  attendance := by
    unfold Ledger.attendance?
    rw [follows.attendances]
  disturbance := by
    cases before : Assoc.get? (commission.nameFor registration) office.disturbances with
    | none =>
        cases now : Assoc.get? (commission.nameFor registration) later.disturbances with
        | none => rfl
        | some disturbance =>
            have member := follows.pending _ (Assoc.mem_of_get? now)
            have present := (Assoc.isSome_get?_iff (commission.nameFor registration) _).2
              (List.mem_map_of_mem (f := Prod.fst) member)
            rw [before] at present
            cases present
    | some disturbance =>
        rw [← before]
        apply follows.disturbances
        intro r member same
        have pending := Assoc.mem_of_get? before
        have equal := own _ pending r (others member) registration among same rfl
        exact absent (equal ▸ member)
  vault := follows.vault
  reads := by
    intro ref member
    have deep : 1 < artifactDepth := by decide
    exact follows.vault.toOption_read deep sound.vault after.vault (outside ref member)
  unrivalled := ⟨sound.unrivalled, after.unrivalled⟩

end Follows

variable {commission : Commission}

theorem ProduceFault.not_isAlreadyIssued {candidate : Candidate} {codes : CodePair}
    {office : Office} (genuine : HasNoFeignedConflicts office) {failure : Failure}
    (fault : ProduceFault commission candidate codes office failure) :
    ¬failure.IsAlreadyIssued := by
  cases fault with
  | late => exact Failure.not_isAlreadyIssued_error nofun
  | disturbed name failure pending => exact genuine _ pending failure rfl
  | undrawn failure drawing => exact TemplateSource.not_isAlreadyIssued_of_draw drawing
  | unstored detail => exact Failure.not_isAlreadyIssued_error nofun

/-- Only who holds a certificate is told so. -/
theorem Completed.isAlreadyIssued_eq_false {candidate : Candidate} {office later : Office}
    {outcome : Outcome} (genuine : HasNoFeignedConflicts office)
    (free : office.ledger.holds commission.event.id candidate.registration.id = false)
    (completed : Completed commission candidate office outcome later) :
    outcome.isAlreadyIssued = false := by
  cases completed with
  | issued => rfl
  | setback failure progress supply vault disturbances cause =>
      have honest : ¬failure.IsAlreadyIssued := by
        cases cause with
        | held holds =>
            rw [free] at holds
            cases holds
        | exhausted => exact Failure.not_isAlreadyIssued_error nofun
        | undrawn => exact Failure.not_isAlreadyIssued_defect _
        | unproduced codes failure fault => exact fault.not_isAlreadyIssued genuine
      exact beq_eq_false_iff_ne.2 honest

/-- A turn of a participant without a certificate uses up one pair of codes, whatever becomes of
it. -/
theorem follows_complete {registration : Registration} {serial : Int} {office : Office}
    (sound : office.Sound) (genuine : HasNoFeignedConflicts office) {pair : CodePair}
    {supply : CodeSupply} (drawn : office.codes.next = some (pair, supply))
    (free : office.ledger.holds commission.event.id registration.id = false)
    (fresh : office.ledger.codesTaken pair = false) :
    (Attempt.complete commission ⟨registration, serial⟩ office).1.isAlreadyIssued = false ∧
      (Attempt.complete commission ⟨registration, serial⟩ office).2.codes = supply ∧
        Follows commission [registration] [pair] office
          (Attempt.complete commission ⟨registration, serial⟩ office).2 := by
  have completed : Completed commission ⟨registration, serial⟩ office _ _ :=
    Attempt.completed_complete sound
  refine ⟨completed.isAlreadyIssued_eq_false genuine free, ?_⟩
  have generated := (CodeSupply.isGenerated_of_next sound.codes drawn).1
  obtain ⟨vault, reached, fills⟩ := @after_produce commission ⟨registration, serial⟩ pair generated
    { office with codes := supply } sound.unrivalled
  rw [Attempt.complete_of_free free drawn fresh generated sound.unrivalled]
  unfold Work.after at reached
  generalize (produce commission ⟨registration, serial⟩ pair).perform
    { office with codes := supply } = performed at reached ⊢
  obtain ⟨result, later⟩ := performed
  have between : later = _ := reached
  subst between
  have calm : ∀ name, (∀ r ∈ [registration], commission.nameFor r ≠ name) →
      Assoc.get? name (Assoc.erase (commission.nameFor registration) office.disturbances) =
        Assoc.get? name office.disturbances := by
    intro name others
    rw [Assoc.get?_erase, if_neg (others registration List.mem_cons_self)]
  cases result with
  | error failure =>
      exact ⟨rfl, rfl, rfl, rfl, fun _ member => member, fun _ member => Or.inl member,
        fun _ member => Assoc.mem_of_mem_erase member, calm, fills⟩
  | ok made =>
      obtain ⟨format, stored⟩ := made
      refine ⟨rfl, rfl, rfl, rfl, fun _ member => List.mem_append_left _ member, ?_,
        fun _ member => Assoc.mem_of_mem_erase member, calm, fills⟩
      intro c member
      rcases List.mem_append.1 member with older | last
      · exact Or.inl older
      · rw [List.mem_singleton.1 last]
        exact Or.inr ⟨List.mem_singleton.2 rfl, List.mem_singleton.2 rfl⟩

/-- How far a batch has come after some participants: each of those who held no certificate has used
up one serial number and one pair of codes. -/
theorem follows_issueAll (front : List Registration) (serial : Int) {office : Office}
    {pairs : List CodePair} (sound : office.Sound) (genuine : HasNoFeignedConflicts office)
    (distinct : (front.map (·.id)).Nodup) (gives : office.codes.Gives pairs)
    (apart : CodePair.AreApart pairs) (unused : ∀ pair ∈ pairs, office.ledger.codesTaken pair = false)
    (enough : countFree commission office front ≤ pairs.length) :
    Follows commission front (pairs.take (countFree commission office front)) office
        (issueAll commission serial front office).2 ∧
      (issueAll commission serial front office).2.Sound ∧
      (issueAll commission serial front office).2.codes.Gives
        (pairs.drop (countFree commission office front)) ∧
      ((issueAll commission serial front office).1.countP fun result =>
        !result.outcome.isAlreadyIssued) = countFree commission office front := by
  induction front generalizing serial office pairs with
  | nil => exact ⟨Follows.refl [] office, sound, gives, rfl⟩
  | cons registration rest ih =>
      obtain ⟨absent, others⟩ := List.nodup_cons.1 distinct
      have completed : Completed commission ⟨registration, serial⟩ office _ _ :=
        Attempt.completed_complete sound
      have after := completed.sound sound
      simp only [issueAll]
      cases held : office.ledger.holds commission.event.id registration.id with
      | true =>
          have conflict : ∀ serial, (Outcome.setback
              ⟨Attempt.heldFailure commission ⟨registration, serial⟩, .resolving⟩).isAlreadyIssued =
                true :=
            fun _ => beq_self_eq_true _
          have first := @Attempt.complete_of_held commission ⟨registration, serial⟩ office held
          rw [countFree_cons_of_held rest held] at enough ⊢
          rw [first]
          simp only [conflict, if_true]
          obtain ⟨follows, later, remaining, counted⟩ :=
            ih serial sound genuine others gives apart unused enough
          refine ⟨(Follows.refl [registration] office).trans follows, later, remaining, ?_⟩
          rw [List.countP_cons_of_neg, counted]
          simp only [conflict, Bool.not_true, Bool.false_eq_true, not_false_eq_true]
      | false =>
          rw [countFree_cons_of_free rest held] at enough ⊢
          cases pairs with
          | nil => cases enough
          | cons pair pairs =>
              obtain ⟨supply, drawn, remaining⟩ := gives
              have turn := @follows_complete commission registration serial office sound genuine pair
                supply drawn held (unused pair List.mem_cons_self)
              generalize Attempt.complete commission ⟨registration, serial⟩ office = done
                at turn after ⊢
              obtain ⟨outcome, between⟩ := done
              obtain ⟨honest, supplied, first⟩ := turn
              have gives' : between.codes.Gives pairs := supplied ▸ remaining
              have genuine' : HasNoFeignedConflicts between :=
                fun entry member => genuine entry (first.pending entry member)
              have unused' : ∀ other ∈ pairs, between.ledger.codesTaken other = false := by
                intro other member
                apply first.codesTaken_eq_false (unused other (List.mem_cons_of_mem pair member))
                intro used isPair
                rw [List.mem_singleton.1 isPair]
                exact apart.ne member
              -- those who come later hold what they held before this turn
              have same : countFree commission between rest = countFree commission office rest := by
                apply first.countFree_eq
                intro r member isFirst
                have shared := List.mem_map_of_mem (f := (·.id)) member
                rw [List.mem_singleton.1 isFirst] at shared
                exact absent shared
              have enough' : countFree commission between rest ≤ pairs.length := by
                rw [same]
                exact Nat.le_of_succ_le_succ enough
              obtain ⟨follows, later, further, counted⟩ :=
                ih (serial + 1) after genuine' others gives' apart.tail unused' enough'
              have honest' : outcome.isAlreadyIssued = false := honest
              rw [same] at follows further counted
              simp only [honest', Bool.false_eq_true, if_false]
              refine ⟨first.trans follows, later, further, ?_⟩
              rw [List.countP_cons_of_pos, counted]
              rw [honest']
              rfl

theorem issueAll_append (commission : Commission) (serial : Int) (front back : List Registration)
    (office : Office) :
    issueAll commission serial (front ++ back) office =
      ((issueAll commission serial front office).1 ++
          (issueAll commission
            (serial + (issueAll commission serial front office).1.countP fun result =>
              !result.outcome.isAlreadyIssued) back
            (issueAll commission serial front office).2).1,
        (issueAll commission
          (serial + (issueAll commission serial front office).1.countP fun result =>
            !result.outcome.isAlreadyIssued) back
          (issueAll commission serial front office).2).2) := by
  induction front generalizing serial office with
  | nil =>
      simp only [issueAll, List.nil_append, List.countP_nil, Int.natCast_zero, Int.add_zero]
  | cons registration rest ih =>
      simp only [List.cons_append, issueAll, ih, List.countP_cons]
      cases (Attempt.complete commission ⟨registration, serial⟩ office).1.isAlreadyIssued with
      | true => simp only [if_true, Bool.not_true, Bool.false_eq_true, if_false, Nat.add_zero]
      | false =>
          simp only [Bool.false_eq_true, if_false, Bool.not_false, if_true, Int.natCast_add,
            Int.natCast_one]
          rw [Int.add_assoc, Int.add_comm 1]

theorem length_issueAll (commission : Commission) (serial : Int) (participants : List Registration)
    (office : Office) : (issueAll commission serial participants office).1.length =
      participants.length := by
  rw [results_issueAll, List.length_map, ← List.length_map (f := (·.candidate.registration)),
    registrations_turns]

/-- A certificate that is issued in a batch is the one that was drawn, and stays so to the end of the
batch. -/
theorem exists_content {registration : Registration} {serial : Int} {office : Office}
    (sound : office.Sound) (back : List Registration) {success : Success}
    (succeeded : (Attempt.complete commission ⟨registration, serial⟩ office).1 = .success success) :
    ∃ content format,
      commission.source.draw office.vault.read office.settings.fonts
          (valuesFor commission ⟨registration, success.serial⟩ office success.codes) =
        .ok ⟨content, format⟩ ∧
      (issueAll commission serial (registration :: back) office).2.vault.read success.fileRef =
        .ok content := by
  obtain ⟨rows, effect, -⟩ := effect_issueAll commission serial (registration :: back) sound
  have issued := effect.issued
  rw [turns, List.filter_cons_of_pos] at issued
  · cases issued with
    | cons leaves _ =>
        obtain ⟨reported, content, leaves⟩ := leaves
        have same := leaves.outcome
        rw [Turn.outcome, succeeded] at same
        cases same
        obtain ⟨format, -, drawing⟩ := leaves.drawn
        exact ⟨content, format, drawing, leaves.fileRef ▸ leaves.there⟩
  · rw [Turn.succeeds, Turn.outcome, succeeded]
    rfl

/-- If attempts in two offices that are alike come to the same, then the same file is stored. -/
theorem Alike.exists_content {registration : Registration} {serial : Int} {a b : Office}
    (alike : Alike commission registration a b) (sound : a.Sound) (sound' : b.Sound)
    (same : (Attempt.complete commission ⟨registration, serial⟩ b).1.unnumbered =
      (Attempt.complete commission ⟨registration, serial⟩ a).1.unnumbered)
    (back : List Registration) {success : Success}
    (succeeded : (Attempt.complete commission ⟨registration, serial⟩ b).1 = .success success) :
    ∃ content,
      (issueAll commission serial (registration :: back) b).2.vault.read success.fileRef =
          .ok content ∧
        (Attempt.complete commission ⟨registration, serial⟩ a).2.vault.read success.fileRef =
          .ok content := by
  obtain ⟨content, format, drawing, there⟩ := Batch.exists_content sound' back succeeded
  cases reported : (Attempt.complete commission ⟨registration, serial⟩ a).1 with
  | setback setback =>
      rw [succeeded, reported] at same
      cases same
  | success other =>
      obtain ⟨content', format', drawing', there'⟩ := Batch.exists_content sound [] reported
      rw [succeeded, reported] at same
      simp only [Outcome.unnumbered, Outcome.success.injEq, Success.mk.injEq, true_and] at same
      obtain ⟨sameCodes, sameRef, sameSerial, -⟩ := same
      have drawings := @Alike.draw_eq commission ⟨registration, success.serial⟩ success.codes a b alike
      rw [drawing, sameCodes, sameSerial, drawing'] at drawings
      cases drawings
      exact ⟨content, there, sameRef ▸ there'⟩

/-- What comes of a participant alone, with a serial number and a pair of codes. -/
def alone (commission : Commission) (registration : Registration) (serial : Int) (codes : CodePair)
    (office : Office) : Outcome × Office :=
  Attempt.complete commission ⟨registration, serial⟩ { office with codes := .listed [codes] }

/-- In the midst of others, a participant's attempt comes to what it comes to alone. -/
theorem issueAll_eq_alone {office : Office} (sound : office.Sound)
    (genuine : HasNoFeignedConflicts office) {front back : List Registration}
    {registration : Registration}
    (distinct : ((front ++ registration :: back).map (·.id)).Nodup)
    (own : HasOwnDisturbances commission (front ++ registration :: back) office)
    (outside : ∀ ref ∈ commission.source.refs, ∀ store path,
      office.vault.location? ref = some (store, path) → ¬Storage.IsWithin artifactTop path)
    {pairs : List CodePair} (gives : office.codes.Gives pairs) (apart : CodePair.AreApart pairs)
    (unused : ∀ pair ∈ pairs, office.ledger.codesTaken pair = false)
    (free : office.ledger.holds commission.event.id registration.id = false) {codes : CodePair}
    (dealt : pairs[countFree commission office front]? = some codes) (serial : Int) :
    ∃ outcome,
      (issueAll commission serial (front ++ registration :: back) office).1[front.length]? =
          some ⟨registration.id, registration.name, outcome⟩ ∧
        outcome.unnumbered = (alone commission registration
          (serial + countFree commission office front) codes office).1.unnumbered ∧
        ∀ success, outcome = .success success → ∃ content,
          (issueAll commission serial (front ++ registration :: back) office).2.vault.read
              success.fileRef = .ok content ∧
            (alone commission registration (serial + countFree commission office front) codes
              office).2.vault.read success.fileRef = .ok content := by
  rw [List.map_append, List.map_cons, List.nodup_append] at distinct
  obtain ⟨frontDistinct, -, separate⟩ := distinct
  have absent : registration.id ∉ front.map (·.id) := fun member =>
    separate _ member _ List.mem_cons_self rfl
  obtain ⟨within, here⟩ := List.getElem?_eq_some_iff.1 dealt
  have member : codes ∈ pairs := here ▸ List.getElem_mem within
  obtain ⟨follows, after, remaining, counted⟩ := follows_issueAll front serial sound genuine
    frontDistinct gives apart unused (Nat.le_of_lt within)
  rw [issueAll_append, counted]
  have length := length_issueAll commission serial front office
  generalize issueAll commission serial front office = issued at follows after remaining length ⊢
  obtain ⟨reports, between⟩ := issued
  simp only at follows after remaining length ⊢
  -- the pair that falls to the participant has been used neither before the batch nor in it
  rw [List.drop_eq_getElem_cons within, here] at remaining
  obtain ⟨supply, drawn, -⟩ := remaining
  have fresh : between.ledger.codesTaken codes = false := by
    apply follows.codesTaken_eq_false (unused codes member)
    intro used inFront
    have split := List.take_append_drop (countFree commission office front) pairs
    rw [List.drop_eq_getElem_cons within, here] at split
    exact apart.ne_of_split split.symm inFront
  have generated := CodeSupply.isGenerated_of_gives sound.codes gives codes member
  have unchanged : Alike commission registration office between :=
    follows.alike sound after own (List.mem_append_right front List.mem_cons_self)
      (List.subset_append_left front _) (fun inFront => absent (List.mem_map_of_mem inFront)) outside
  have alike : Alike commission registration { office with codes := .listed [codes] } between :=
    unchanged.withCodes (.listed [codes]) between.codes
  have free' : between.ledger.holds commission.event.id registration.id = false :=
    (follows.holds_eq commission.event.id absent).trans free
  have same := @Alike.unnumbered_complete commission
    ⟨registration, serial + countFree commission office front⟩ codes _ _ _ _ alike generated free
    free' rfl drawn (unused codes member) fresh
  have soundAlone : Office.Sound { office with codes := .listed [codes] } :=
    ⟨sound.vault, sound.ledger, fun _ single => List.mem_singleton.1 single ▸ generated,
      sound.unrivalled, sound.kept⟩
  refine ⟨_, ?_, same, fun success succeeded => ?_⟩
  · rw [List.getElem?_append_right (Nat.le_of_eq length), length, Nat.sub_self]
    rfl
  · exact alike.exists_content soundAlone after same back succeeded

end Batch

/-! Two guests are checked in at the launch, and the drawing for the first one is going to time out. -/

namespace Launch

def delayed : List Step :=
  [.change { circumstances with
      registrations := [guest, latecomer], disturbances := [("Ada", .timeout)] },
    .operation (.checkIn guest none), .operation (.checkIn latecomer none),
    .operation (.createTemplate .standard draft)]

theorem isReachable_through_delayed : (start.through delayed).IsReachable := by
  refine ⟨start, delayed, isFresh_start, ?_, rfl⟩
  intro step member
  simp only [delayed, List.mem_cons, List.not_mem_nil, or_false] at member
  rcases member with rfl | rfl | rfl | rfl
  · refine ⟨isOrdinary_circumstances.codes, ?_⟩
    intro entry pending
    rw [List.mem_singleton.1 pending]
    rfl
  · trivial
  · trivial
  · trivial

def firstCodes : CodePair := ⟨"CERT-000000000001", "VERIFY-0000000000000001"⟩

def secondCodes : CodePair := ⟨"CERT-000000000002", "VERIFY-0000000000000002"⟩

theorem disturbances_delayed : (start.through delayed).disturbances = [("Ada", .timeout)] := rfl

theorem registrations_delayed :
    (start.through delayed).ledger.registrations = [guest, latecomer] := rfl

theorem certificates_delayed : (start.through delayed).ledger.certificates = [] := rfl

theorem hasNoFeignedConflicts_delayed : Batch.HasNoFeignedConflicts (start.through delayed) := by
  intro entry pending failure same
  rw [disturbances_delayed, List.mem_singleton] at pending
  rw [pending] at same
  cases same

theorem hasOwnDisturbances_delayed (template : Template) (event : Event) (source : TemplateSource) :
    Batch.HasOwnDisturbances (options.commission template event source) [guest, latecomer]
      (start.through delayed) := by
  intro entry pending p isP q isQ ofP ofQ
  rw [disturbances_delayed, List.mem_singleton] at pending
  rw [pending] at ofP ofQ
  have other : (options.commission template event source).nameFor latecomer ≠ "Ada" := by
    change "Ben" ≠ "Ada"
    decide
  simp only [List.mem_cons, List.not_mem_nil, or_false] at isP isQ
  rcases isP with rfl | rfl
  · rcases isQ with rfl | rfl
    · rfl
    · exact absurd ofQ other
  · exact absurd ofP other

theorem gives_delayed : (start.through delayed).codes.Gives [firstCodes, secondCodes] := by
  have supply : (start.through delayed).codes = .stream [] 0 := rfl
  rw [supply]
  exact ⟨.stream [] 1, rfl, .stream [] 2, rfl, trivial⟩

theorem eligible_delayed : (start.through delayed).ledger.eligible 1 = [guest, latecomer] := by
  have unsorted : (((start.through delayed).ledger.registrations.filter fun r =>
        r.eventId == 1 && r.status == eligibleStatus).filterMap fun r =>
      ((start.through delayed).ledger.attendance? r.id).map fun attendance =>
        (r, attendance.checkedInAt)) = [(guest, clock), (latecomer, clock)] := by
    decide +kernel
  have sorted : List.Pairwise (fun a b => Ledger.cameBefore a b = true)
      [(guest, clock), (latecomer, clock)] := by
    decide
  unfold Ledger.eligible Ledger.attendees
  simp only
  rw [unsorted, List.mergeSort_of_pairwise sorted]
  rfl

def event : Event := ⟨1, some "Launch", none, none, none, none, none⟩

/-- What comes of the two guests alone, with the serial numbers and codes that fall to them. -/
def delay : Batch.Outcome := .setback ⟨.error (.renderTimeout "30" 1), .codeAssigned⟩

def arrival : Batch.Outcome :=
  .success ⟨0, secondCodes, "primary:certificates/1/2/CERT-000000000002.png", 2, false⟩

theorem exists_opened_delayed :
    ∃ template source,
      Batch.Opened options 1 1 none (start.through delayed) template event source [guest, latecomer]
          [] ∧
        source.refs = [] ∧
        (Batch.alone (options.commission template event source) guest 1 firstCodes
          (start.through delayed)).1.unnumbered = delay ∧
        (Batch.alone (options.commission template event source) latecomer 2 secondCodes
          (start.through delayed)).1.unnumbered = arrival := by
  have found : ((start.through delayed).ledger.template? 1).bind (fun t =>
      t.source.toOption.map fun source =>
        (t.requireReady.isOk, (Batch.checkEvent t event).isOk, source.refs,
          (Batch.alone (options.commission t event source) guest 1 firstCodes
            (start.through delayed)).1.unnumbered,
          (Batch.alone (options.commission t event source) latecomer 2 secondCodes
            (start.through delayed)).1.unnumbered)) = some (true, true, [], delay, arrival) := by
    decide +kernel
  have event? : (start.through delayed).ledger.event? 1 = some event := by
    decide +kernel
  obtain ⟨template, template?, found⟩ := Option.bind_eq_some_iff.1 found
  obtain ⟨source, drawn, found⟩ := Option.map_eq_some_iff.1 found
  simp only [Prod.mk.injEq] at found
  obtain ⟨isReady, fits, refs, first, second⟩ := found
  obtain ⟨_, ready⟩ := exists_ok_of_isOk isReady
  obtain ⟨_, fits⟩ := exists_ok_of_isOk fits
  have drawnFrom : template.source = .ok source := by
    cases result : template.source with
    | error e =>
        rw [result] at drawn
        cases drawn
    | ok other =>
        rw [result] at drawn
        cases drawn
        rfl
  have selected : (Batch.select event.id none).perform (start.through delayed) =
      (.ok ([guest, latecomer], []), start.through delayed) := by
    rw [← eligible_delayed]
    rfl
  exact ⟨template, source, ⟨template?, ready, event?, fits, selected, drawnFrom⟩, refs, first,
    second⟩

end Launch

end Issuance
