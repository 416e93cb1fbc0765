import Issuance.Proofs.Batch.Holders
/-!
Which codes an attempt uses. It draws pairs until one is free and goes on with this one, or gives up
after the last draw; the next attempt of the batch draws from what is left of the supply.
-/

namespace Issuance

/-- The next pairs of a supply, as far as it has so many, and what is left of it. -/
def CodeSupply.draw : Nat → CodeSupply → List CodePair × CodeSupply
  | 0, supply => ([], supply)
  | count + 1, supply =>
      match supply.next with
      | none => ([], supply)
      | some (codes, rest) => (codes :: (draw count rest).1, (draw count rest).2)

theorem CodeSupply.draw_succ {supply rest : CodeSupply} {codes : CodePair}
    (drawn : supply.next = some (codes, rest)) (count : Nat) :
    supply.draw (count + 1) = (codes :: (rest.draw count).1, (rest.draw count).2) := by
  simp only [draw, drawn]

theorem CodeSupply.draw_of_ended {supply : CodeSupply} (ended : supply.next = none) (count : Nat) :
    supply.draw count = ([], supply) := by
  cases count with
  | zero => rfl
  | succ count => simp only [draw, ended]

theorem CodeSupply.length_draw_le (count : Nat) (supply : CodeSupply) :
    (supply.draw count).1.length ≤ count := by
  induction count generalizing supply with
  | zero => exact Nat.le_refl 0
  | succ count ih =>
      cases next : supply.next with
      | none =>
          rw [draw_of_ended next]
          exact Nat.zero_le _
      | some first =>
          obtain ⟨codes, rest⟩ := first
          rw [draw_succ next]
          exact Nat.succ_le_succ (ih rest)

/-- Drawing goes on where it has stopped. -/
theorem CodeSupply.draw_add (first second : Nat) (supply : CodeSupply) :
    supply.draw (first + second) =
      ((supply.draw first).1 ++ ((supply.draw first).2.draw second).1,
        ((supply.draw first).2.draw second).2) := by
  induction first generalizing supply with
  | zero => simp only [draw, Nat.zero_add, List.nil_append]
  | succ first ih =>
      cases next : supply.next with
      | none => simp only [draw_of_ended next, List.nil_append]
      | some found =>
          obtain ⟨codes, rest⟩ := found
          rw [Nat.succ_add, draw_succ next, draw_succ next, ih, List.cons_append]

namespace Batch

/-- What comes of producing a certificate with some codes. Something takes the place of the drawing,
the drawing fails, or the file cannot be put at the place that has the certificate code in its key;
or else the file is put there and the certificate is entered into the ledger with these codes. -/
inductive Production (commission : Commission) (candidate : Candidate) (codes : CodePair)
    (office : Office) : Outcome → Office → Prop
  | interrupted (failure : Failure)
      (happening : interruption commission candidate
        (Assoc.get? (commission.nameFor candidate.registration) office.disturbances) =
          some failure) :
      Production commission candidate codes office (.setback ⟨failure, .codeAssigned⟩)
        (office.calmed (commission.nameFor candidate.registration))
  | undrawn (failure : Failure)
      (calm : interruption commission candidate
        (Assoc.get? (commission.nameFor candidate.registration) office.disturbances) = none)
      (drawing : commission.source.draw office.vault.read office.settings.fonts
        (valuesFor commission candidate office codes) = .error failure) :
      Production commission candidate codes office (.setback ⟨failure, .codeAssigned⟩)
        (office.calmed (commission.nameFor candidate.registration))
  | unstored (artifact : Artifact) (fault : IoFault) (vault : Storage.Vault Content)
      (calm : interruption commission candidate
        (Assoc.get? (commission.nameFor candidate.registration) office.disturbances) = none)
      (drawing : commission.source.draw office.vault.read office.settings.fonts
        (valuesFor commission candidate office codes) = .ok artifact)
      (putting : office.vault.put (artifactKey (toString commission.event.id)
        (toString candidate.registration.id) codes.certificate artifact.format) artifact.content =
          (.error fault, vault)) :
      Production commission candidate codes office
        (.setback ⟨.error (.storageUnavailable .artifact fault.detail), .codeAssigned⟩)
        { office.calmed (commission.nameFor candidate.registration) with vault }
  | issued (artifact : Artifact) (stored : Storage.StoredObject) (vault : Storage.Vault Content)
      (calm : interruption commission candidate
        (Assoc.get? (commission.nameFor candidate.registration) office.disturbances) = none)
      (drawing : commission.source.draw office.vault.read office.settings.fonts
        (valuesFor commission candidate office codes) = .ok artifact)
      (putting : office.vault.put (artifactKey (toString commission.event.id)
        (toString candidate.registration.id) codes.certificate artifact.format) artifact.content =
          (.ok stored, vault)) :
      Production commission candidate codes office
        (.success ⟨office.ledger.nextCertificateId, codes, stored.ref.text, candidate.serial,
          stored.usesFallback⟩)
        { office.calmed (commission.nameFor candidate.registration) with
          vault
          ledger := office.ledger.withEntered
            (certificateRow commission candidate codes artifact.format stored office) }

variable {commission : Commission} {candidate : Candidate} {codes : CodePair}
  {office later : Office}

namespace Attempt

/-- The codes with which a certificate is drawn and stored in the next step. -/
def underway? (attempt : Attempt) : Option CodePair :=
  match attempt.stage with
  | .producing _ codes => some codes
  | _ => none

/-- The codes with which certificates are drawn and stored in the next steps. -/
def productions (commission : Commission) (candidate : Candidate) :
    Nat → Attempt → Office → List CodePair
  | 0, _, _ => []
  | count + 1, attempt, office =>
      attempt.underway?.toList ++ productions commission candidate count
        (attempt.step commission candidate office).1 (attempt.step commission candidate office).2

/-- The codes with which a whole attempt draws and stores certificates. -/
def produces (commission : Commission) (candidate : Candidate) (office : Office) : List CodePair :=
  productions commission candidate (stepsLeft .opening) start office

/-- In so many steps an attempt gets from one point to another, and draws and stores certificates
with some codes. -/
inductive Reaches (commission : Commission) (candidate : Candidate) :
    Nat → Attempt × Office → List CodePair → Attempt × Office → Prop
  | refl (point : Attempt × Office) : Reaches commission candidate 0 point [] point
  | next {attempt : Attempt} {office : Office} {count : Nat} {made : List CodePair}
      {between final : Attempt × Office}
      (moved : attempt.step commission candidate office = between)
      (others : Reaches commission candidate count between made final) :
      Reaches commission candidate (count + 1) (attempt, office)
        (attempt.underway?.toList ++ made) final

theorem Reaches.trans {first second : Nat} {made more : List CodePair}
    {a b c : Attempt × Office} (there : Reaches commission candidate first a made b)
    (on : Reaches commission candidate second b more c) :
    Reaches commission candidate (second + first) a (made ++ more) c := by
  induction there with
  | refl point => exact on
  | next moved others ih =>
      rw [List.append_assoc]
      exact .next moved (ih on)

theorem Reaches.steps_eq {count : Nat} {made : List CodePair} {a b : Attempt × Office}
    (there : Reaches commission candidate count a made b) (more : Nat) :
    steps commission candidate (more + count) a.1 a.2 =
      steps commission candidate more b.1 b.2 := by
  induction there with
  | refl point => rfl
  | next moved others ih =>
      rw [← ih, ← moved]
      rfl

theorem Reaches.productions_eq {count : Nat} {made : List CodePair} {a b : Attempt × Office}
    (there : Reaches commission candidate count a made b) (more : Nat) :
    productions commission candidate (more + count) a.1 a.2 =
      made ++ productions commission candidate more b.1 b.2 := by
  induction there with
  | refl point => rfl
  | next moved others ih =>
      rw [List.append_assoc, ← ih, ← moved]
      rfl

theorem productions_of_isSettled (count : Nat) {attempt : Attempt} (office : Office)
    (settled : attempt.isSettled = true) :
    productions commission candidate count attempt office = [] := by
  have quiet : attempt.underway? = none := by
    obtain ⟨stage, progress⟩ := attempt
    cases stage with
    | settled outcome => rfl
    | _ => cases settled
  induction count with
  | zero => rfl
  | succ count ih =>
      rw [productions, step_of_isSettled commission candidate attempt office settled, ih, quiet]
      rfl

/-- An attempt that has been settled in few enough steps is complete. -/
theorem Reaches.complete_eq {count : Nat} {made : List CodePair} {outcome : Outcome}
    {progress : Progress}
    (there : Reaches commission candidate count (start, office) made
      (⟨.settled outcome, progress⟩, later)) (few : count ≤ stepsLeft .opening) :
    complete commission candidate office = (outcome, later) ∧
      produces commission candidate office = made := by
  obtain ⟨more, enough⟩ : ∃ more, stepsLeft .opening = more + count :=
    ⟨stepsLeft .opening - count, (Nat.sub_add_cancel few).symm⟩
  have reached := there.steps_eq more
  have made := there.productions_eq more
  rw [steps_of_isSettled commission candidate more _ _ rfl] at reached
  rw [productions_of_isSettled more _ rfl, List.append_nil] at made
  constructor
  · unfold complete
    rw [enough, reached]
    rfl
  · unfold produces
    rw [enough, made]

/-- Pairs that are taken are drawn and left behind. -/
theorem reaches_of_taken (progress : Progress) (left : Nat) {before after : List CodePair}
    (drawn : (office.codes.draw (before.length + left)).1 = before ++ after)
    (taken : ∀ pair ∈ before, office.ledger.codesTaken pair = true) :
    Reaches commission candidate before.length (⟨.drawing (before.length + left), progress⟩, office)
        [] (⟨.drawing left, progress⟩,
          { office with codes := (office.codes.draw before.length).2 }) ∧
      ((office.codes.draw before.length).2.draw left).1 = after := by
  induction before generalizing office with
  | nil =>
      rw [List.length_nil, Nat.zero_add] at drawn ⊢
      exact ⟨.refl _, drawn⟩
  | cons pair before ih =>
      rw [List.length_cons, Nat.add_right_comm] at drawn ⊢
      cases next : office.codes.next with
      | none =>
          rw [CodeSupply.draw_of_ended next] at drawn
          cases drawn
      | some first =>
          obtain ⟨codes, rest⟩ := first
          rw [CodeSupply.draw_succ next] at drawn ⊢
          obtain ⟨rfl, others⟩ := List.cons.inj drawn
          obtain ⟨there, remaining⟩ := @ih { office with codes := rest } others
            fun pair member => taken pair (List.mem_cons_of_mem _ member)
          refine ⟨?_, remaining⟩
          have moved : step commission candidate
              ⟨.drawing (before.length + left + 1), progress⟩ office =
                (⟨.drawing (before.length + left), progress⟩, { office with codes := rest }) := by
            have performed : drawCodes.run.run office = _ := perform_drawCodes_of_some next
            have collided := taken codes List.mem_cons_self
            simp only [step, Attempt.drawn, performed, collided, if_true]
          exact .next moved there

theorem reaches_drawing
    (free : office.ledger.holds commission.event.id candidate.registration.id = false) :
    Reaches commission candidate 1 (start, office) []
      (⟨.drawing maxDraws, .resolving⟩, office) := by
  refine .next ?_ (.refl _)
  simp only [step, start, opened, free, Bool.false_eq_true, if_false]

theorem reaches_producing (progress : Progress) (left : Nat) {supply : CodeSupply}
    (next : office.codes.next = some (codes, supply))
    (fresh : office.ledger.codesTaken codes = false) :
    Reaches commission candidate 1 (⟨.drawing (left + 1), progress⟩, office) []
      (⟨.producing left codes, .codeAssigned⟩, { office with codes := supply }) := by
  have performed : drawCodes.run.run office = _ := perform_drawCodes_of_some next
  refine .next ?_ (.refl _)
  simp only [step, Attempt.drawn, performed, fresh, Bool.false_eq_true, if_false]

theorem reaches_ended (progress : Progress) (left : Nat) {supply : CodeSupply}
    (ended : supply.next = none) :
    Reaches commission candidate 1
      (⟨.drawing (left + 1), progress⟩, { office with codes := supply }) []
      (⟨.settled (.setback ⟨.defect .noCodesLeft, progress⟩), progress⟩,
        { office with codes := supply }) := by
  have performed : drawCodes.run.run { office with codes := supply } = _ :=
    perform_drawCodes_of_none ended
  refine .next ?_ (.refl _)
  simp only [step, Attempt.drawn, performed, giveUp]

theorem filed_of_accepts (progress : Progress) (left : Nat) {format : String}
    {stored : Storage.StoredObject}
    (accepted : office.ledger.accepts
      (certificateRow commission candidate codes format stored office) = true) :
    filed commission candidate progress left codes format stored office =
      (⟨.settled (.success ⟨office.ledger.nextCertificateId, codes, stored.ref.text,
          candidate.serial, stored.usesFallback⟩), .persisted⟩,
        { office with
          ledger := office.ledger.withEntered
            (certificateRow commission candidate codes format stored office) }) := by
  simp only [filed, Ledger.enter?_of_accepts accepted]
  rfl

/-- If the codes are free and the participant holds no certificate, the ledger takes the entry. -/
theorem step_filing (left : Nat) (progress : Progress) {format : String}
    (stored : Storage.StoredObject)
    (free : office.ledger.holds commission.event.id candidate.registration.id = false)
    (fresh : office.ledger.codesTaken codes = false) {vault : Storage.Vault Content}
    {disturbances : List (String × Disturbance)} :
    step commission candidate ⟨.filing left codes format stored, progress⟩
        { office with vault, disturbances } =
      (⟨.settled (.success ⟨office.ledger.nextCertificateId, codes, stored.ref.text,
          candidate.serial, stored.usesFallback⟩), .persisted⟩,
        { office with
          vault, disturbances
          ledger := office.ledger.withEntered
            (certificateRow commission candidate codes format stored office) }) := by
  have accepted : office.ledger.accepts
      (certificateRow commission candidate codes format stored { office with vault, disturbances }) =
        true := Ledger.accepts_iff.2 ⟨free, fresh⟩
  exact @filed_of_accepts commission candidate codes { office with vault, disturbances } progress
    left format stored accepted

/-- With codes that are free a certificate is produced, and this is the end of the attempt. -/
theorem reaches_settled (left : Nat)
    (free : office.ledger.holds commission.event.id candidate.registration.id = false)
    (fresh : office.ledger.codesTaken codes = false) (unrivalled : office.IsUnrivalled) :
    ∃ count outcome progress later, count ≤ 2 ∧
      Production commission candidate codes office outcome later ∧
      Reaches commission candidate count (⟨.producing left codes, .codeAssigned⟩, office) [codes]
        (⟨.settled outcome, progress⟩, later) := by
  have performed : (produce commission candidate codes).run.run office = _ :=
    perform_produce unrivalled
  have failing : ∀ failure later,
      (produce commission candidate codes).run.run office = (.error failure, later) →
      Reaches commission candidate 1 (⟨.producing left codes, .codeAssigned⟩, office) [codes]
        (⟨.settled (.setback ⟨failure, .codeAssigned⟩), .codeAssigned⟩, later) := by
    intro failure later failed
    refine .next ?_ (.refl _)
    simp only [step, produced, failed, giveUp]
  cases happening : interruption commission candidate
      (Assoc.get? (commission.nameFor candidate.registration) office.disturbances) with
  | some failure =>
      rw [happening] at performed
      exact ⟨1, _, _, _, by decide, .interrupted failure happening, failing _ _ performed⟩
  | none =>
      simp only [happening] at performed
      cases drawing : commission.source.draw office.vault.read office.settings.fonts
          (valuesFor commission candidate office codes) with
      | error failure =>
          simp only [drawing] at performed
          exact ⟨1, _, _, _, by decide, .undrawn failure happening drawing,
            failing _ _ performed⟩
      | ok artifact =>
          simp only [drawing, ← keyOf_artifactPath] at performed
          cases putting : office.vault.put (artifactKey (toString commission.event.id)
              (toString candidate.registration.id) codes.certificate artifact.format)
              artifact.content with
          | mk result vault =>
              rw [putting] at performed
              cases result with
              | error fault =>
                  exact ⟨1, _, _, _, by decide, .unstored artifact fault vault happening drawing
                    putting, failing _ _ performed⟩
              | ok stored =>
                  refine ⟨2, _, .persisted, _, by decide,
                    .issued artifact stored vault happening drawing putting, ?_⟩
                  refine .next ?_ (.next (step_filing left .rendered stored free fresh) (.refl _))
                  simp only [step, produced, performed]
                  rfl

/-- How an attempt draws its codes in an office. It takes the first of the next pairs that is free,
produces one certificate with it and leaves the pairs after it in the supply; if none of the pairs
that it may draw is free, it gives them all up and produces nothing. -/
structure DrawsFirstFree (commission : Commission) (candidate : Candidate) (office : Office) :
    Prop where
  free : ∀ before codes after, (office.codes.draw maxDraws).1 = before ++ codes :: after →
    (∀ pair ∈ before, office.ledger.codesTaken pair = true) →
    office.ledger.codesTaken codes = false →
      Production commission candidate codes
          { office with codes := (office.codes.draw (before.length + 1)).2 }
          (complete commission candidate office).1 (complete commission candidate office).2 ∧
        produces commission candidate office = [codes]
  exhausted : (office.codes.draw maxDraws).1.length = maxDraws →
    (∀ pair ∈ (office.codes.draw maxDraws).1, office.ledger.codesTaken pair = true) →
      complete commission candidate office =
          (.setback ⟨.error (.codeSpaceExhausted maxDraws), .resolving⟩,
            { office with codes := (office.codes.draw maxDraws).2 }) ∧
        produces commission candidate office = []
  ended : (office.codes.draw maxDraws).1.length < maxDraws →
    (∀ pair ∈ (office.codes.draw maxDraws).1, office.ledger.codesTaken pair = true) →
      complete commission candidate office = (.setback ⟨.defect .noCodesLeft, .resolving⟩,
          { office with codes := (office.codes.draw maxDraws).2 }) ∧
        produces commission candidate office = []

theorem drawsFirstFree
    (unheld : office.ledger.holds commission.event.id candidate.registration.id = false)
    (unrivalled : office.IsUnrivalled) : DrawsFirstFree commission candidate office where
  free := by
    intro before codes after found taken fresh
    have few := CodeSupply.length_draw_le maxDraws office.codes
    rw [found, List.length_append, List.length_cons] at few
    obtain ⟨left, split⟩ : ∃ left, maxDraws = before.length + (left + 1) :=
      ⟨maxDraws - before.length - 1, by omega⟩
    rw [split] at found
    obtain ⟨there, remaining⟩ := reaches_of_taken .resolving (left + 1) found taken
    rw [← split] at there
    cases next : (office.codes.draw before.length).2.next with
    | none =>
        rw [CodeSupply.draw_of_ended next] at remaining
        cases remaining
    | some first =>
        obtain ⟨pair, supply⟩ := first
        have consumed : (office.codes.draw (before.length + 1)).2 = supply := by
          rw [CodeSupply.draw_add, CodeSupply.draw_succ next]
          rfl
        rw [CodeSupply.draw_succ next] at remaining
        obtain ⟨rfl, -⟩ := List.cons.inj remaining
        obtain ⟨count, outcome, progress, later, few, production, settled⟩ :=
          @reaches_settled commission candidate pair { office with codes := supply } left unheld
            fresh unrivalled
        have found : Reaches commission candidate 1
            (⟨.drawing (left + 1), .resolving⟩,
              { office with codes := (office.codes.draw before.length).2 }) []
            (⟨.producing left pair, .codeAssigned⟩, { office with codes := supply }) :=
          reaches_producing .resolving left next fresh
        have whole := (((reaches_drawing unheld).trans there).trans found).trans settled
        obtain ⟨complete, made⟩ := whole.complete_eq (by
          have bound : stepsLeft .opening = 22 := rfl
          have draws : maxDraws = 5 := rfl
          omega)
        rw [complete, consumed]
        exact ⟨production, made⟩
  exhausted := by
    intro all taken
    have drawn : (office.codes.draw ((office.codes.draw maxDraws).1.length + 0)).1 =
        (office.codes.draw maxDraws).1 ++ [] := by
      rw [all, List.append_nil]
      rfl
    obtain ⟨there, -⟩ := @reaches_of_taken commission candidate office .resolving 0 _ _ drawn taken
    rw [all] at there
    exact (((reaches_drawing unheld).trans there).trans (.next rfl (.refl _))).complete_eq
      (by decide)
  ended := by
    intro few taken
    obtain ⟨left, split⟩ : ∃ left,
        maxDraws = (office.codes.draw maxDraws).1.length + (left + 1) :=
      ⟨maxDraws - (office.codes.draw maxDraws).1.length - 1, by omega⟩
    generalize drawn : (office.codes.draw maxDraws).1 = before at *
    rw [split] at drawn
    obtain ⟨there, remaining⟩ := reaches_of_taken .resolving (left + 1)
      (drawn.trans (List.append_nil before).symm) taken
    rw [← split] at there
    cases next : (office.codes.draw before.length).2.next with
    | some first =>
        rw [CodeSupply.draw_succ next] at remaining
        cases remaining
    | none =>
        have consumed : (office.codes.draw maxDraws).2 = (office.codes.draw before.length).2 := by
          rw [split, CodeSupply.draw_add, CodeSupply.draw_of_ended next]
        rw [consumed]
        exact (((reaches_drawing unheld).trans there).trans
          (reaches_ended .resolving left next)).complete_eq (by
            have bound : stepsLeft .opening = 22 := rfl
            have draws : maxDraws = 5 := rfl
            omega)

end Attempt

/-- Some of the pairs is the first free one, or all are taken. -/
theorem exists_first_free (l : Ledger) (pairs : List CodePair) :
    (∃ before codes after, pairs = before ++ codes :: after ∧
        (∀ pair ∈ before, l.codesTaken pair = true) ∧ l.codesTaken codes = false) ∨
      ∀ pair ∈ pairs, l.codesTaken pair = true := by
  cases first : pairs.find? (fun pair => !l.codesTaken pair) with
  | some codes =>
      obtain ⟨fresh, before, after, split, taken⟩ := List.find?_eq_some_iff_append.1 first
      refine Or.inl ⟨before, codes, after, split, fun pair member => ?_, ?_⟩
      · simpa only [Bool.not_not] using taken pair member
      · simpa only [Bool.not_eq_true'] using fresh
  | none =>
      refine Or.inr fun pair member => ?_
      simpa only [Bool.not_eq_true', Bool.not_eq_false] using List.find?_eq_none.1 first pair member

/-- An attempt adds to the codes that are taken those of the certificate that it has issued. -/
structure Takes (office : Office) (outcome : Outcome) (later : Office) : Prop where
  unrivalled : later.IsUnrivalled
  taken : ∀ codes, later.ledger.codesTaken codes = true ↔
    office.ledger.codesTaken codes = true ∨ ∃ success, outcome = .success success ∧
      (success.codes.certificate = codes.certificate ∨
        success.codes.verification = codes.verification)

theorem Takes.of_setback {office later : Office} {setback : Setback}
    (unrivalled : later.IsUnrivalled) (same : later.ledger = office.ledger) :
    Takes office (.setback setback) later := by
  refine ⟨unrivalled, fun codes => ?_⟩
  rw [same]
  refine ⟨Or.inl, ?_⟩
  rintro (taken | ⟨success, impossible, -⟩)
  · exact taken
  · cases impossible

theorem Production.takes {outcome : Outcome} (unrivalled : office.IsUnrivalled)
    (production : Production commission candidate codes office outcome later) :
    Takes office outcome later := by
  have calmer : (office.calmed (commission.nameFor candidate.registration)).IsUnrivalled :=
    fun entry pending => unrivalled entry (Assoc.mem_of_mem_erase pending)
  cases production with
  | interrupted failure => exact .of_setback calmer rfl
  | undrawn failure => exact .of_setback calmer rfl
  | unstored artifact fault vault => exact .of_setback calmer rfl
  | issued artifact stored vault =>
      refine ⟨calmer, fun other => ?_⟩
      have entered : ∀ pair, (office.ledger.withEntered (certificateRow commission candidate codes
          artifact.format stored office)).codesTaken pair = true ↔
            office.ledger.codesTaken pair = true ∨ (codes.certificate = pair.certificate ∨
              codes.verification = pair.verification) := by
        intro pair
        rw [Ledger.codesTaken_iff, Ledger.codesTaken_iff]
        constructor
        · rintro ⟨row, member, clash⟩
          rcases List.mem_append.1 member with older | last
          · exact Or.inl ⟨row, older, clash⟩
          · rw [List.mem_singleton.1 last] at clash
            exact Or.inr clash
        · rintro (⟨row, older, clash⟩ | clash)
          · exact ⟨row, List.mem_append_left _ older, clash⟩
          · exact ⟨_, List.mem_append_right _ (List.mem_singleton.2 rfl), clash⟩
      rw [entered]
      constructor
      · rintro (older | clash)
        · exact Or.inl older
        · exact Or.inr ⟨_, rfl, clash⟩
      · rintro (older | ⟨success, same, clash⟩)
        · exact Or.inl older
        · cases same
          exact Or.inr clash

theorem takes_complete (unrivalled : office.IsUnrivalled) :
    Takes office (Attempt.complete commission candidate office).1
      (Attempt.complete commission candidate office).2 := by
  cases held : office.ledger.holds commission.event.id candidate.registration.id with
  | true =>
      rw [Attempt.complete_of_held held]
      exact .of_setback unrivalled rfl
  | false =>
      have draws : Attempt.DrawsFirstFree commission candidate office :=
        Attempt.drawsFirstFree held unrivalled
      rcases exists_first_free office.ledger (office.codes.draw maxDraws).1 with
        ⟨before, codes, after, found, taken, fresh⟩ | taken
      · obtain ⟨production, -⟩ := draws.free before codes after found taken fresh
        have calm : ({ office with codes := (office.codes.draw (before.length + 1)).2 } :
          Office).IsUnrivalled := unrivalled
        have takes := production.takes calm
        exact ⟨takes.unrivalled, takes.taken⟩
      · rcases Nat.lt_or_eq_of_le (CodeSupply.length_draw_le maxDraws office.codes) with few | all
        · rw [(draws.ended few taken).1]
          exact .of_setback unrivalled rfl
        · rw [(draws.exhausted all taken).1]
          exact .of_setback unrivalled rfl

/-- How the turns of a batch follow each other. Each begins in the office that the turn before has
left, with the supply as it is then, and with the codes taken that earlier turns have issued. -/
structure TakesOver (commission : Commission) (office : Office) (earlier : List Turn)
    (turn : Turn) : Prop where
  begins : turn.office = (earlier.getLast?.map (Turn.after commission)).getD office
  unrivalled : turn.office.IsUnrivalled
  taken : ∀ codes, turn.office.ledger.codesTaken codes = true ↔
    office.ledger.codesTaken codes = true ∨
      ∃ other ∈ earlier, ∃ success, other.outcome commission = .success success ∧
        (success.codes.certificate = codes.certificate ∨
          success.codes.verification = codes.verification)

theorem takesOver_turns (serial : Int) (participants : List Registration)
    (unrivalled : office.IsUnrivalled) {earlier others : List Turn} {turn : Turn}
    (split : turns commission serial participants office = earlier ++ turn :: others) :
    TakesOver commission office earlier turn := by
  induction participants generalizing serial office earlier with
  | nil =>
      have none := congrArg List.length split
      rw [turns, List.length_append, List.length_cons, List.length_nil] at none
      omega
  | cons registration rest ih =>
      rw [turns_cons] at split
      cases earlier with
      | nil =>
          obtain ⟨rfl, -⟩ := List.cons.inj split
          refine ⟨rfl, unrivalled, fun codes => ⟨Or.inl, ?_⟩⟩
          rintro (taken | ⟨other, impossible, -⟩)
          · exact taken
          · cases impossible
      | cons first earlier =>
          obtain ⟨rfl, remaining⟩ := List.cons.inj split
          have takes := @takes_complete commission ⟨registration, serial⟩ office unrivalled
          have begun := ih _ takes.unrivalled remaining
          refine ⟨?_, begun.unrivalled, fun codes => ?_⟩
          · rw [begun.begins]
            rw [List.getLast?_cons]
            cases earlier.getLast? <;> rfl
          · rw [begun.taken, takes.taken, or_assoc, List.exists_mem_cons_iff]
            rfl

/-- Codes are drawn until a pair is free, from a supply that all participants of a batch share. -/
theorem codes_are_first_free {office : Office} (unrivalled : office.IsUnrivalled) :
    (∀ commission candidate,
        office.ledger.holds commission.event.id candidate.registration.id = false →
          Attempt.DrawsFirstFree commission candidate office) ∧
      ∀ options eventId templateId request results later,
        (run options eventId templateId request).perform office = (.ok results, later) →
          ∃ template event source participants rejected,
            Opened options eventId templateId request office template event source participants
              rejected ∧
            results = (turns (options.commission template event source)
              (office.ledger.nextSerial event.id) participants office).map
                (Turn.result (options.commission template event source)) ++ rejected ∧
            ∀ earlier turn others,
              turns (options.commission template event source) (office.ledger.nextSerial event.id)
                  participants office = earlier ++ turn :: others →
                TakesOver (options.commission template event source) office earlier turn ∧
                  (turn.office.ledger.holds event.id turn.candidate.registration.id = false →
                    Attempt.DrawsFirstFree (options.commission template event source)
                      turn.candidate turn.office) := by
  refine ⟨fun commission candidate unheld => Attempt.drawsFirstFree unheld unrivalled, ?_⟩
  intro options eventId templateId request results later done
  rcases run_cases options eventId templateId request office with
    ⟨failure, refused⟩ | ⟨template, event, source, participants, rejected, opened, issued⟩
  · rw [refused] at done
    cases done
  · rw [issued] at done
    refine ⟨template, event, source, participants, rejected, opened, ?_, ?_⟩
    · rw [← results_issueAll]
      exact (Except.ok.inj (Prod.mk.inj done).1).symm
    · intro earlier turn others split
      have begun := takesOver_turns _ participants unrivalled split
      exact ⟨begun, fun unheld => Attempt.drawsFirstFree unheld begun.unrivalled⟩

end Batch

/-! Three guests of the launch, and a supply whose pairs clash with those that are issued before. -/

namespace Launch

def straggler : Registration := { guest with id := 3, name := some "Cleo" }

def sameCertificate : CodePair := { firstCodes with verification := "VERIFY-0000000000000009" }

def sameVerification : CodePair := { firstCodes with certificate := "CERT-000000000009" }

def spareCodes : CodePair := ⟨"CERT-000000000003", "VERIFY-0000000000000003"⟩

/-- The first guest takes the first pair, the second one the third pair from there, and the third
one draws five pairs that are taken; one pair is left. -/
def scarce : List CodePair :=
  [firstCodes, sameCertificate, sameVerification, secondCodes, firstCodes, sameCertificate,
    secondCodes, sameVerification, firstCodes, spareCodes]

def crowded : List Step :=
  [.change { circumstances with
      registrations := [guest, latecomer, straggler], codes := .listed scarce },
    .operation (.checkIn guest none), .operation (.checkIn latecomer none),
    .operation (.checkIn straggler none), .operation (.createTemplate .standard draft)]

theorem eligible_crowded :
    (start.through crowded).ledger.eligible 1 = [guest, latecomer, straggler] := by
  have unsorted : (((start.through crowded).ledger.registrations.filter fun r =>
        r.eventId == 1 && r.status == eligibleStatus).filterMap fun r =>
      ((start.through crowded).ledger.attendance? r.id).map fun attendance =>
        (r, attendance.checkedInAt)) =
          [(guest, clock), (latecomer, clock), (straggler, clock)] := by
    decide +kernel
  have sorted : List.Pairwise (fun a b => Ledger.cameBefore a b = true)
      [(guest, clock), (latecomer, clock), (straggler, clock)] := by
    decide
  unfold Ledger.eligible Ledger.attendees
  simp only
  rw [unsorted, List.mergeSort_of_pairwise sorted]
  rfl

/-- Whether a participant holds a certificate at the beginning of a turn, which of the next pairs
are taken then, and which pairs come after them. -/
def outlook (turn : Batch.Turn) : Bool × List (CodePair × Bool) × List CodePair :=
  (turn.office.ledger.holds 1 turn.candidate.registration.id,
    (turn.office.codes.draw Batch.maxDraws).1.map fun pair =>
      (pair, turn.office.ledger.codesTaken pair),
    ((turn.office.codes.draw Batch.maxDraws).2.draw Batch.maxDraws).1)

theorem eq_of_marked {pairs : List CodePair} {taken : CodePair → Bool}
    {marked : List (CodePair × Bool)} (same : pairs.map (fun pair => (pair, taken pair)) = marked) :
    pairs = marked.map Prod.fst ∧ ∀ mark ∈ marked, taken mark.1 = mark.2 := by
  subst same
  simp only [List.map_map, List.mem_map, forall_exists_index, and_imp, forall_apply_eq_imp_iff₂,
    implies_true, and_true]
  exact (List.map_id' pairs).symm

theorem evaluated_crowded :
    (start.through crowded).disturbances = [] ∧
      (start.through crowded).ledger.nextSerial 1 = 1 ∧
      (start.through crowded).ledger.event? 1 = some event ∧
      ((start.through crowded).ledger.template? 1).any
        (fun t => t.requireReady.isOk && (Batch.checkEvent t event).isOk) = true ∧
      ((start.through crowded).ledger.template? 1).bind (fun t =>
        t.source.toOption.map fun source =>
          (Batch.turns (options.commission t event source) 1 [guest, latecomer, straggler]
            (start.through crowded)).tail.map outlook) =
        some
          [(false, [(sameCertificate, true), (sameVerification, true), (secondCodes, false),
              (firstCodes, true), (sameCertificate, true)],
            [secondCodes, sameVerification, firstCodes, spareCodes]),
          (false, [(firstCodes, true), (sameCertificate, true), (secondCodes, true),
              (sameVerification, true), (firstCodes, true)], [spareCodes])] := by
  decide +kernel

end Launch

theorem launch_codes_are_first_free :
    (Launch.start.through Launch.crowded).IsUnrivalled ∧
      ∃ commission first second third,
        (∃ later,
          (Batch.run Launch.options 1 1 none).perform (Launch.start.through Launch.crowded) =
            (.ok ([first, second, third].map (Batch.Turn.result commission)), later)) ∧
          Batch.Attempt.produces commission second.candidate second.office =
            [Launch.secondCodes] ∧
          third.outcome commission =
            .setback ⟨.error (.codeSpaceExhausted 5), .resolving⟩ ∧
          Batch.Attempt.produces commission third.candidate third.office = [] ∧
          (third.after commission).ledger = third.office.ledger ∧
          ((third.after commission).codes.draw 5).1 = [Launch.spareCodes] := by
  obtain ⟨calm, serial, eventFound, passes, outlook⟩ := Launch.evaluated_crowded
  obtain ⟨template, found, ready, fits⟩ := Launch.exists_ready passes
  have eligible := Launch.eligible_crowded
  generalize Launch.start.through Launch.crowded = office at *
  have unrivalled : office.IsUnrivalled := by
    intro entry pending
    rw [calm] at pending
    cases pending
  refine ⟨unrivalled, ?_⟩
  have selected : (Batch.select Launch.event.id none).perform office =
      (.ok ([Launch.guest, Launch.latecomer, Launch.straggler], []), office) :=
    Batch.select_eq_ok_iff.2 (Or.inl ⟨rfl, eligible.symm, rfl⟩)
  cases drawnFrom : template.source with
  | error failure =>
      rw [found, Option.bind_some, drawnFrom] at outlook
      cases outlook
  | ok source =>
      have opened : Batch.Opened Launch.options 1 1 none office template Launch.event source
          [Launch.guest, Launch.latecomer, Launch.straggler] [] :=
        ⟨found, ready, eventFound, fits, selected, drawnFrom⟩
      have done := opened.perform_run_eq (by decide) (by decide) (List.cons_ne_nil _ _)
      have listed : ∃ first second third,
          Batch.turns (Launch.options.commission template Launch.event source)
            (office.ledger.nextSerial Launch.event.id)
            [Launch.guest, Launch.latecomer, Launch.straggler] office = [first, second, third] :=
        ⟨_, _, _, rfl⟩
      obtain ⟨first, second, third, listed⟩ := listed
      obtain ⟨template', event', source', participants, rejected, opened', -, each⟩ :=
        (Batch.codes_are_first_free unrivalled).2 _ _ _ _ _ _ done
      cases opened.templateFound.symm.trans opened'.templateFound
      cases opened.eventFound.symm.trans opened'.eventFound
      cases opened.drawnFrom.symm.trans opened'.drawnFrom
      cases opened.selected.symm.trans opened'.selected
      have before : office.ledger.nextSerial Launch.event.id = 1 := serial
      rw [found, Option.bind_some, drawnFrom, ← before] at outlook
      simp only [Except.toOption, Option.map_some, listed, List.tail_cons, List.map_cons,
        List.map_nil, Option.some.injEq, List.cons.injEq, and_true, Launch.outlook,
        Prod.mk.injEq] at outlook
      obtain ⟨⟨unheld, marks, -⟩, unheld', marks', spare⟩ := outlook
      obtain ⟨pairs, taken⟩ := Launch.eq_of_marked marks
      obtain ⟨pairs', taken'⟩ := Launch.eq_of_marked marks'
      obtain ⟨-, made⟩ := ((each [first] second [third] listed).2 unheld).free
        [Launch.sameCertificate, Launch.sameVerification] Launch.secondCodes
        [Launch.firstCodes, Launch.sameCertificate] pairs
        (fun pair member =>
          taken (pair, true) (List.mem_append_left _ (List.mem_map_of_mem (f := (·, true)) member)))
        (taken (_, false) (by decide))
      obtain ⟨complete, nothing⟩ := ((each [first, second] third [] listed).2 unheld').exhausted
        (by rw [pairs']; rfl)
        (fun pair member =>
          taken' (pair, true) (List.mem_map_of_mem (f := (·, true)) (pairs' ▸ member)))
      rw [listed, List.append_nil] at done
      refine ⟨_, first, second, third, ⟨_, done⟩, made, congrArg Prod.fst complete, nothing, ?_, ?_⟩
      · exact congrArg (fun reached => reached.2.ledger) complete
      · rw [Batch.Turn.after, complete]
        exact spare

end Issuance
