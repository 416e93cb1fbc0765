import Issuance.Proofs.Template.Creation
/-!
The mapping of a template through the calls that change it. A call is refused and changes nothing,
or it is accepted; the value of a placeholder is what the last accepted call says that mentions it.
-/

namespace Issuance

theorem template?_withTemplate {office between : Office} (uploaded : Uploaded office between)
    (made : Template) (id : Int) :
    (between.withTemplate made).ledger.template? id =
      (office.ledger.template? id).or (if made.id = id then some made else none) := by
  change (between.ledger.templates ++ [made]).find? (·.id == id) = _
  rw [uploaded.state, List.find?_append, List.find?_singleton]
  simp only [beq_iff_eq]
  rfl

/-- A template whose placeholders have the given values. -/
def Template.withValues (t : Template) (value : String → String) : Template :=
  { t with mapping := t.placeholders.map fun p => (p, some (value p)) }

theorem Template.missing_withValues (t : Template) (value : String → String) :
    (t.withValues value).missing = t.placeholders.filter fun p => (value p).isEmpty := by
  unfold missing Mapping.missing
  refine List.filter_congr fun p member => ?_
  have found : Assoc.get? p (t.withValues value).mapping = some (some (value p)) :=
    Assoc.get?_keyed (fun p => some (value p)) member
  unfold Mapping.target?
  rw [found]
  simp only
  split
  · next empty => rw [empty, Option.isNone_none]
  · next filled => rw [eq_false_of_ne_true filled, Option.isNone_some]

/-- The call for a template that a step makes, if it is accepted. -/
def Step.acceptedCall? (id : Int) (office : Office) : Step → Option Json
  | .operation (.setMapping catalog other proposed) =>
      if other = id ∧
          ((Operation.setMapping catalog other proposed).work.perform office).1.isOk = true then
        some proposed
      else none
  | _ => none

/-- The calls for a template that are accepted in the course of a history, in their order. -/
def acceptedCalls (id : Int) (office : Office) : List Step → List Json
  | [] => []
  | step :: rest =>
      (step.acceptedCall? id office).toList ++ acceptedCalls id (step.run office) rest

/-- What the last of some calls says that mentions a placeholder; nothing, if there is none. -/
def lastValue (calls : List Json) (p : String) : String :=
  (calls.reverse.findSome? (mention? · p)).getD ""

theorem lastValue_concat (calls : List Json) (proposed : Json) (p : String) :
    lastValue (calls ++ [proposed]) p = (mention? proposed p).getD (lastValue calls p) := by
  unfold lastValue
  rw [List.reverse_append, List.reverse_singleton, List.singleton_append, List.findSome?_cons]
  cases mention? proposed p <;> rfl

theorem acceptedCalls_concat (id : Int) (office : Office) (history : List Step) (step : Step) :
    acceptedCalls id office (history ++ [step]) =
      acceptedCalls id office history ++
        (step.acceptedCall? id (office.through history)).toList := by
  induction history generalizing office with
  | nil =>
      simp only [acceptedCalls, List.nil_append, List.append_nil]
      rfl
  | cons first rest ih =>
      rw [List.cons_append, acceptedCalls, ih, acceptedCalls, List.append_assoc]
      rfl

/-- An operation that is no call for a template leaves it as it is or removes it. -/
theorem template?_of_reshapes {op : Operation} {office later : Office}
    (reshapes : op.Reshapes office later) {id : Int} {t : Template}
    (found : office.ledger.template? id = some t)
    (uncalled : ∀ catalog proposed, op ≠ .setMapping catalog id proposed) :
    later.ledger.template? id = some t ∨
      op = .deleteTemplate id ∧ later.ledger.template? id = none := by
  cases reshapes with
  | none op later templates => exact Or.inl ((Ledger.template?_congr templates id).trans found)
  | maps catalog other proposed template mapping called checked later templates =>
      have different : t.id ≠ template.id := by
        rw [Ledger.id_of_template? found, Ledger.id_of_template? called]
        rintro rfl
        exact uncalled catalog proposed rfl
      rw [Ledger.template?_congr templates id, Ledger.template?_putTemplate, found, Option.map_some,
        if_neg different]
      exact Or.inl rfl
  | makes catalog draft made between later uploaded done entered new =>
      rw [entered, template?_withTemplate uploaded, found, Option.some_or]
      exact Or.inl rfl
  | removes other later templates =>
      rw [Ledger.template?_congr templates id, Ledger.template?_removeTemplate]
      split
      · next same =>
          rw [same]
          exact Or.inr ⟨rfl, rfl⟩
      · exact Or.inl found

/-- A template that is there only after an operation has been made by it. -/
theorem makes_of_absent {op : Operation} {office later : Office}
    (reshapes : op.Reshapes office later) {id : Int} {t : Template}
    (absent : office.ledger.template? id = none) (found : later.ledger.template? id = some t) :
    ∃ catalog draft, op = .createTemplate catalog draft ∧
      (Issuance.createTemplate catalog draft).perform office = (.ok t, later) := by
  cases reshapes with
  | none op later templates =>
      rw [Ledger.template?_congr templates id, absent] at found
      cases found
  | maps catalog other proposed template mapping called checked later templates =>
      rw [Ledger.template?_congr templates id, Ledger.template?_putTemplate, absent] at found
      cases found
  | makes catalog draft made between later uploaded done entered new =>
      refine ⟨catalog, draft, rfl, ?_⟩
      rw [entered, template?_withTemplate uploaded, absent, Option.none_or] at found
      split at found
      · cases found
        exact done
      · cases found
  | removes other later templates =>
      rw [Ledger.template?_congr templates id, Ledger.template?_removeTemplate, absent, ite_self]
        at found
      cases found

theorem Step.acceptedCall?_eq_none {step : Step} {id : Int} (office : Office)
    (uncalled : ∀ catalog proposed, step ≠ .operation (.setMapping catalog id proposed)) :
    step.acceptedCall? id office = none := by
  unfold acceptedCall?
  split
  · next catalog other proposed =>
      refine if_neg fun accepted => ?_
      obtain ⟨rfl, -⟩ := accepted
      exact uncalled catalog proposed rfl
  · rfl

theorem Step.acceptedCall?_setMapping (catalog : Catalog) (id : Int) (proposed : Json)
    (office : Office) :
    Step.acceptedCall? id office (.operation (.setMapping catalog id proposed)) =
      if ((Operation.setMapping catalog id proposed).work.perform office).1.isOk = true then
        some proposed
      else none := by
  simp only [acceptedCall?, true_and]

/-- What one step makes of the values of a template, if it does not remove it. -/
theorem template?_step {step : Step} {office : Office} (sound : office.Sound) {id : Int}
    {t : Template} (distinct : t.placeholders.Nodup) {calls : List Json}
    (found : office.ledger.template? id = some (t.withValues (lastValue calls))) :
    (step.run office).ledger.template? id = some (t.withValues
        (lastValue (calls ++ (step.acceptedCall? id office).toList))) ∨
      step = .operation (.deleteTemplate id) ∧ (step.run office).ledger.template? id = none := by
  by_cases called : ∃ catalog proposed, step = .operation (.setMapping catalog id proposed)
  · left
    obtain ⟨catalog, proposed, rfl⟩ := called
    change ((Operation.setMapping catalog id proposed).work.after office).ledger.template? id = _
    rw [Work.after, Step.acceptedCall?_setMapping]
    rcases Operation.setMapping_cases catalog id proposed office with
      ⟨failure, refused⟩ | ⟨template, mapping, known, checked, done⟩
    · rw [refused]
      change _ = some (t.withValues (lastValue (calls ++ [])))
      rw [List.append_nil]
      exact found
    · rw [found] at known
      cases known
      have changed : { t.withValues (lastValue calls) with
            mapping := mergeMapping t.placeholders (t.withValues (lastValue calls)).mapping mapping } =
          t.withValues (lastValue (calls ++ [proposed])) := by
        unfold Template.withValues
        rw [mergeMapping_eq distinct checked (lastValue calls)]
        simp only [lastValue_concat]
      rw [done]
      refine (Ledger.template?_putTemplate _ _ id).trans ?_
      rw [found, Option.map_some, if_pos rfl]
      exact congrArg some changed
  · have uncalled : ∀ catalog proposed, step ≠ .operation (.setMapping catalog id proposed) :=
      fun catalog proposed same => called ⟨catalog, proposed, same⟩
    rw [Step.acceptedCall?_eq_none office uncalled, Option.toList_none, List.append_nil]
    cases step with
    | change circumstances => exact Or.inl found
    | operation op =>
        refine (template?_of_reshapes (op.reshapes sound) found ?_).imp_right ?_
        · exact fun catalog proposed same => uncalled catalog proposed (congrArg Step.operation same)
        · exact fun removed => ⟨congrArg Step.operation removed.1, removed.2⟩

theorem Deck.nodup_placeholders (deck : Deck) : deck.placeholders.Nodup := nodup_distinct _

/-- In a new template nothing is mapped. -/
theorem IsMade.unmapped {catalog : Catalog} {draft : TemplateDraft} {office between : Office}
    {t : Template} (made : IsMade catalog draft office between t) :
    t.placeholders.Nodup ∧ t.withValues (lastValue []) = t := by
  have noValue : lastValue [] = fun _ => "" := rfl
  have same : t.mapping = t.placeholders.map (fun p => (p, some "")) →
      t.withValues (lastValue []) = t := by
    intro mapping
    rw [noValue]
    unfold Template.withValues
    rw [← mapping]
  rcases made.origin with deck | ⟨accepted, refs, canvas⟩
  · obtain ⟨content, found, -, -, placeholders⟩ := deck_of_ingestDeck deck.ingested
    exact ⟨placeholders ▸ found.nodup_placeholders, same deck.mapping⟩
  · rw [canvas.placeholders] at same ⊢
    exact ⟨List.nodup_nil, same canvas.mapping⟩

theorem IsMade.ingested {catalog : Catalog} {draft : TemplateDraft} {office between : Office}
    {t : Template} (made : IsMade catalog draft office between t)
    (kind : t.kind = TemplateKind.deck.word) : ingestDeck draft.file = .ok t.placeholders := by
  rcases made.origin with deck | ⟨accepted, refs, canvas⟩
  · exact deck.ingested
  · have impossible : TemplateKind.deck.word = TemplateKind.canvas.word := kind.symm.trans canvas.kind
    exact absurd impossible (by decide)

/-- A new template is found under its id. -/
theorem IsMade.template? {catalog : Catalog} {draft : TemplateDraft} {office between : Office}
    {t : Template} (made : IsMade catalog draft office between t) :
    (between.withTemplate t).ledger.template? t.id = some t := by
  have absent : office.ledger.templates.find? (·.id == t.id) = none := by
    rw [List.find?_eq_none]
    intro old member
    have below := Ledger.lt_nextId (List.mem_map_of_mem (f := (·.id)) member)
    rw [← made.id] at below
    rw [beq_iff_eq]
    omega
  rw [template?_withTemplate made.uploaded, if_pos rfl]
  exact congrArg (Option.or · (some t)) absent

namespace Creation

/-- The calls for a template that are accepted after it has been made. -/
def calls (creation : Creation) : List Json :=
  acceptedCalls creation.made.id creation.office creation.after

variable {creation : Creation} {start : Office} {history : List Step}

/-- As long as a template is not removed, its values are what the accepted calls say. -/
theorem IsIn.template? (isIn : creation.IsIn start history)
    (ordinary : ∀ step ∈ history, Step.IsOrdinary step) (sound : start.Sound)
    (kept : ∀ step ∈ creation.after, step ≠ .operation (.deleteTemplate creation.made.id)) :
    (start.through history).ledger.template? creation.made.id =
      some (creation.made.withValues (lastValue creation.calls)) := by
  obtain ⟨between, entered, made⟩ := isIn.isMade ordinary sound
  have after := isIn.ordinary_after ordinary
  have created := isIn.sound_office ordinary sound
  rw [isIn.through, calls]
  generalize creation.after = later at after kept
  induction later using List.reverseRecOn with
  | nil =>
      change creation.office.ledger.template? creation.made.id =
        some (creation.made.withValues (lastValue []))
      rw [entered, made.template?, made.unmapped.2]
  | append_singleton earlier step ih =>
      have early : ∀ other ∈ earlier, Step.IsOrdinary other :=
        fun other member => after other (List.mem_append_left _ member)
      have found := ih early fun other member => kept other (List.mem_append_left _ member)
      have here : step ∈ earlier ++ [step] := List.mem_append_right _ List.mem_cons_self
      have current := (Office.advances_through early created).sound
      rw [acceptedCalls_concat, Office.through_append]
      exact (template?_step current made.unmapped.1 found).resolve_right fun removed =>
        kept step here removed.1

end Creation

/-- A template that is found was made by a step of the history, and its values are what the calls
say that were accepted since. -/
theorem Office.exists_creation {start : Office} (fresh : start.IsFresh) {history : List Step}
    (ordinary : ∀ step ∈ history, Step.IsOrdinary step) {id : Int} {t : Template}
    (found : (start.through history).ledger.template? id = some t) :
    ∃ creation : Creation, creation.IsIn start history ∧ creation.made.id = id ∧
      t = creation.made.withValues (lastValue creation.calls) := by
  induction history using List.reverseRecOn generalizing t with
  | nil =>
      change start.ledger.templates.find? (·.id == id) = some t at found
      rw [fresh.templates] at found
      cases found
  | append_singleton earlier step ih =>
      have early : ∀ other ∈ earlier, Step.IsOrdinary other :=
        fun other member => ordinary other (List.mem_append_left _ member)
      have current := (Office.advances_through early fresh.sound).sound
      rw [Office.through_append] at found
      change (step.run (start.through earlier)).ledger.template? id = some t at found
      cases before : (start.through earlier).ledger.template? id with
      | some old =>
          obtain ⟨creation, isIn, rfl, rfl⟩ := ih early before
          obtain ⟨between, -, made⟩ := isIn.isMade early fresh.sound
          refine ⟨{ creation with after := creation.after ++ [step] }, isIn.next step, rfl, ?_⟩
          rcases template?_step current made.unmapped.1 before with changed | ⟨-, removed⟩
          · rw [changed] at found
            rw [Creation.calls, acceptedCalls_concat, ← isIn.through]
            exact (Option.some.inj found).symm
          · rw [removed] at found
            cases found
      | none =>
          cases step with
          | change circumstances =>
              change (start.through earlier).ledger.template? id = some t at found
              rw [before] at found
              cases found
          | operation op =>
              obtain ⟨catalog, draft, rfl, done⟩ :=
                makes_of_absent (op.reshapes current) before found
              have isIn : Creation.IsIn ⟨earlier, catalog, draft, t, _, []⟩ start
                  (earlier ++ [.operation (.createTemplate catalog draft)]) := ⟨rfl, done⟩
              obtain ⟨between, -, made⟩ := isIn.isMade ordinary fresh.sound
              exact ⟨_, isIn, Ledger.id_of_template? found, made.unmapped.2.symm⟩

/-- A template whose placeholders are different and mapped to fields of a catalog or to nothing. A
canvas has none. -/
structure Template.IsMapped (catalog : Catalog) (t : Template) : Prop where
  distinct : t.placeholders.Nodup
  values : ∃ value, t.withValues value = t ∧
    ∀ p ∈ t.placeholders, value p = "" ∨ catalog.contains (value p) = true
  canvas : t.kind = TemplateKind.canvas.word → t.placeholders = []

theorem Template.IsMapped.keys {catalog : Catalog} {t : Template} (mapped : t.IsMapped catalog) :
    t.mapping.map Prod.fst = t.placeholders := by
  obtain ⟨value, same, -⟩ := mapped.values
  rw [← same]
  simp only [withValues, List.map_map, Function.comp_def, List.map_id']

theorem Template.IsMapped.within {catalog : Catalog} {t : Template} (mapped : t.IsMapped catalog) :
    ∀ entry ∈ t.mapping, ∃ key, entry.2 = some key ∧
      (key = "" ∨ catalog.contains key = true) := by
  obtain ⟨value, same, allowed⟩ := mapped.values
  intro entry member
  rw [← same] at member
  obtain ⟨p, noted, rfl⟩ := List.mem_map.1 member
  exact ⟨value p, rfl, allowed p noted⟩

/-- What a template lacks are the placeholders that are mapped to nothing. -/
theorem Template.IsMapped.missing {catalog : Catalog} {t : Template} (mapped : t.IsMapped catalog) :
    t.missing = (t.mapping.filter fun entry => entry.2 = some "").map Prod.fst := by
  obtain ⟨value, same, -⟩ := mapped.values
  rw [← same, missing_withValues]
  simp only [withValues, List.filter_map, List.map_map, Function.comp_def, Option.some.injEq,
    List.map_id']
  refine List.filter_congr fun p _ => ?_
  rw [Bool.eq_iff_iff, String.isEmpty_iff, decide_eq_true_iff]

theorem Template.IsMapped.isReady_iff {catalog : Catalog} {t : Template}
    (mapped : t.IsMapped catalog) :
    t.isReady = true ↔ ∀ entry ∈ t.mapping, entry.2 ≠ some "" := by
  unfold isReady
  rw [mapped.missing, List.isEmpty_iff, List.map_eq_nil_iff, List.filter_eq_nil_iff]
  simp only [decide_eq_true_eq, ne_eq]

theorem IsNew.isMapped {catalog origin : Catalog} {office : Office} {t : Template}
    (new : IsNew origin office t) : t.IsMapped catalog := by
  cases new with
  | deck ref store fileName number content found kind contentRef placeholders mapping isDeck counted
      located there uploaded noCanvas =>
      refine ⟨placeholders ▸ found.nodup_placeholders, ⟨fun _ => "", ?_, fun _ _ => Or.inl rfl⟩, ?_⟩
      · unfold Template.withValues
        rw [placeholders, ← mapping, ← placeholders]
      · intro other
        rw [kind] at other
        exact absurd other (by decide)
  | canvas spec kind placeholders mapping canvas known noFile =>
      refine ⟨placeholders ▸ List.nodup_nil, ⟨fun _ => "", ?_, fun _ _ => Or.inl rfl⟩,
        fun _ => placeholders⟩
      unfold Template.withValues
      rw [placeholders, List.map_nil, ← mapping, ← placeholders]

theorem IsAcceptableMapping.allowed {catalog : Catalog} {placeholders : List String}
    {proposed : Json} (acceptable : IsAcceptableMapping catalog placeholders proposed) {p key : String}
    (mentioned : mention? proposed p = some key) : key = "" ∨ catalog.contains key = true := by
  obtain ⟨members, rfl, each⟩ := acceptable
  obtain ⟨value, found, rfl⟩ := Option.map_eq_some_iff.1 mentioned
  have member : (p, value) ∈ members := List.mem_reverse.1 (Assoc.mem_of_get? found)
  rcases (each _ member).2 with none | ⟨key, text, allowed⟩
  · have value : value = .null := none
    rw [value]
    exact Or.inl rfl
  · have value : value = .str key := text
    rw [value]
    exact allowed

theorem Template.IsMapped.withMapping {catalog : Catalog} {t : Template}
    (mapped : t.IsMapped catalog) {proposed : Json} {mapping : Mapping}
    (checked : checkMapping catalog t.placeholders proposed = .ok mapping) :
    Template.IsMapped catalog
      { t with mapping := mergeMapping t.placeholders t.mapping mapping } where
  distinct := mapped.distinct
  canvas := mapped.canvas
  values := by
    obtain ⟨value, same, allowed⟩ := mapped.values
    have old : t.mapping = t.placeholders.map fun p => (p, some (value p)) :=
      (congrArg Template.mapping same).symm
    refine ⟨fun p => (mention? proposed p).getD (value p), ?_, ?_⟩
    · unfold Template.withValues
      rw [old, mergeMapping_eq mapped.distinct checked value]
    · intro p member
      change (mention? proposed p).getD (value p) = "" ∨
        catalog.contains ((mention? proposed p).getD (value p)) = true
      cases mentioned : mention? proposed p with
      | none => exact allowed p member
      | some key => exact (checkMapping_eq_ok_iff.1 checked).1.allowed mentioned

/-- Whether an operation maps placeholders to fields of a catalog. -/
def Operation.MapsWithin (catalog : Catalog) : Operation → Prop
  | .setMapping other _ _ => other = catalog
  | _ => True

/-- Whether a step maps placeholders to fields of a catalog. -/
def Step.MapsWithin (catalog : Catalog) : Step → Prop
  | .operation op => op.MapsWithin catalog
  | .change _ => True

namespace Office

theorem isMapped_step {catalog : Catalog} {step : Step} (within : step.MapsWithin catalog)
    {office : Office} (sound : office.Sound)
    (mapped : ∀ t ∈ office.ledger.templates, t.IsMapped catalog) :
    ∀ t ∈ (step.run office).ledger.templates, t.IsMapped catalog := by
  cases step with
  | change circumstances => exact mapped
  | operation op =>
      refine (op.reshapes sound).forall_templates ?_ ?_ mapped
      · rintro other id proposed t mapping rfl checked known
        have same : other = catalog := within
        rw [same] at checked
        exact known.withMapping checked
      · exact fun _ _ _ t _ _ _ new => new.isMapped

theorem isMapped_through {catalog : Catalog} {history : List Step}
    (ordinary : ∀ step ∈ history, Step.IsOrdinary step)
    (within : ∀ step ∈ history, Step.MapsWithin catalog step) {office : Office}
    (sound : office.Sound) (mapped : ∀ t ∈ office.ledger.templates, t.IsMapped catalog) :
    ∀ t ∈ (office.through history).ledger.templates, t.IsMapped catalog := by
  refine holds_through (P := fun office => ∀ t ∈ office.ledger.templates, t.IsMapped catalog)
    ordinary ?_ sound mapped
  intro step member current sound before
  exact isMapped_step (within step member) sound before

end Office

/-- A call is refused and changes nothing, or it maps placeholders of the template to fields of the
catalog or to nothing. -/
theorem setMapping_accepted_iff {catalog : Catalog} {id : Int} {proposed : Json}
    {office later : Office} {result : Except Failure Unit}
    (called : (Operation.setMapping catalog id proposed).work.perform office = (result, later)) :
    (result.isOk = true ∨ later = office) ∧
      ∀ t, office.ledger.template? id = some t → -idBound ≤ id ∧ id < idBound →
        (result.isOk = true ↔ IsAcceptableMapping catalog t.placeholders proposed) := by
  constructor
  · rcases Operation.setMapping_cases catalog id proposed office with
      ⟨failure, refused⟩ | ⟨template, mapping, -, -, done⟩
    · rw [refused] at called
      exact Or.inr (Prod.mk.inj called).2.symm
    · rw [done] at called
      rw [← (Prod.mk.inj called).1]
      exact Or.inl rfl
  · intro t found inTables
    rw [Operation.work, Work.perform_bind_of_ok (perform_requireTemplate inTables found)] at called
    unfold setMapping at called
    cases checked : checkMapping catalog t.placeholders proposed with
    | error e =>
        rw [checked] at called
        have refused : Except.error (.error e) = result := (Prod.mk.inj called).1
        rw [← refused]
        constructor
        · intro accepted
          cases accepted
        · intro acceptable
          rw [checkMapping_eq_ok_iff.2 ⟨acceptable, rfl⟩] at checked
          cases checked
    | ok mapping =>
        rw [checked] at called
        have accepted : Except.ok () = result := (Prod.mk.inj called).1
        rw [← accepted]
        exact ⟨fun _ => (checkMapping_eq_ok_iff.1 checked).1, fun _ => rfl⟩

/-- In every office that is reached with one catalog, a template maps each of its placeholders to
nothing or to a field of the catalog. The value of a placeholder is what the last accepted call says
that mentions it, and a call that is not accepted changes nothing. -/
theorem mappings_follow_accepted_calls {start : Office} (fresh : start.IsFresh)
    {history : List Step} (ordinary : ∀ step ∈ history, Step.IsOrdinary step) {catalog : Catalog}
    (within : ∀ step ∈ history, Step.MapsWithin catalog step) :
    (∀ t ∈ (start.through history).ledger.templates,
      t.mapping.map Prod.fst = t.placeholders ∧ t.placeholders.Nodup ∧
      (∀ entry ∈ t.mapping, ∃ key, entry.2 = some key ∧
        (key = "" ∨ catalog.contains key = true)) ∧
      (t.kind = TemplateKind.canvas.word → t.placeholders = [] ∧ t.mapping = []) ∧
      (t.isReady = true ↔ ∀ entry ∈ t.mapping, entry.2 ≠ some "") ∧
      t.missing = (t.mapping.filter fun entry => entry.2 = some "").map Prod.fst ∧
      ∃ creation : Creation, creation.IsIn start history ∧
        (t.kind = TemplateKind.deck.word →
          ingestDeck creation.draft.file = .ok t.placeholders) ∧
        t = creation.made.withValues (lastValue creation.calls)) ∧
    (∀ creation : Creation, creation.IsIn start history →
      (∀ step ∈ creation.after, step ≠ .operation (.deleteTemplate creation.made.id)) →
      (start.through history).ledger.template? creation.made.id =
        some (creation.made.withValues (lastValue creation.calls))) ∧
    ∀ id proposed result later,
      (Operation.setMapping catalog id proposed).work.perform (start.through history) =
        (result, later) →
      (result.isOk = true ∨ later = start.through history) ∧
        ∀ t, (start.through history).ledger.template? id = some t →
          -idBound ≤ id ∧ id < idBound →
          (result.isOk = true ↔ IsAcceptableMapping catalog t.placeholders proposed) := by
  refine ⟨?_, ?_, ?_⟩
  · intro t member
    have begun : ∀ t ∈ start.ledger.templates, t.IsMapped catalog := by
      rw [fresh.templates]
      exact fun _ none => absurd none List.not_mem_nil
    have mapped := Office.isMapped_through ordinary within fresh.sound begun t member
    obtain ⟨creation, isIn, -, same⟩ :=
      Office.exists_creation fresh ordinary (Office.template?_of_mem fresh ordinary member)
    obtain ⟨between, -, made⟩ := isIn.isMade ordinary fresh.sound
    refine ⟨mapped.keys, mapped.distinct, mapped.within, fun kind => ?_, mapped.isReady_iff,
      mapped.missing, creation, isIn, fun kind => ?_, same⟩
    · have bare := mapped.canvas kind
      have keys := mapped.keys
      rw [bare, List.map_eq_nil_iff] at keys
      exact ⟨bare, keys⟩
    · rw [same] at kind ⊢
      exact made.ingested kind
  · exact fun creation isIn kept => isIn.template? ordinary fresh.sound kept
  · exact fun id proposed result later called => setMapping_accepted_iff called

namespace Launch

/-- A deck with two placeholders. -/
def ticket : TemplateDraft :=
  ⟨some "Ticket", some "flatDocument", none, some "ticket.pptx",
    some (.deck ⟨[⟨[.textBox [[.run "\x7b\x7bname\x7d\x7d at \x7b\x7bevent\x7d\x7d" false]]],
      none⟩]⟩), .nothing, []⟩

/-- Both placeholders are mapped, then one of them to no field, which is refused, and the other one
to nothing. -/
def ticketCalls : List Step :=
  [.operation (.setMapping .standard 1
      (.obj [("name", .str "participant_name"), ("event", .str "event_title")])),
    .operation (.setMapping .standard 1 (.obj [("name", .str "shoe_size")])),
    .operation (.setMapping .standard 1 (.obj [("event", .null)]))]

def ticketHistory : List Step :=
  [.change circumstances] ++ .operation (.createTemplate .standard ticket) :: ticketCalls

/-- What making the ticket comes to, with the office that it leaves. -/
def ticketMade : Except Failure Template × Office :=
  (createTemplate .standard ticket).perform (start.through [.change circumstances])

def ticketCreation (made : Template) : Creation :=
  ⟨[.change circumstances], .standard, ticket, made, ticketMade.2, ticketCalls⟩

theorem isIn_ticketCreation {made : Template} (reported : ticketMade.1 = .ok made) :
    (ticketCreation made).IsIn start ticketHistory where
  steps := rfl
  done := by
    simp only [ticketCreation, ← reported]
    simp only [ticketMade]

theorem exists_ticketMade : ∃ made, ticketMade.1 = .ok made ∧ made.id = 1 ∧
    made.placeholders = ["name", "event"] := by
  have facts : (ticketMade.1.toOption.map fun t => (t.id, t.placeholders)) =
      some (1, ["name", "event"]) := by
    decide +kernel
  cases result : ticketMade.1 with
  | error failure =>
      rw [result] at facts
      cases facts
  | ok made =>
      rw [result] at facts
      obtain ⟨one, placeholders⟩ := Prod.mk.inj (Option.some.inj facts)
      exact ⟨made, rfl, one, placeholders⟩

end Launch

theorem launch_ticket_follows_accepted_calls :
    ∃ t, (Launch.start.through Launch.ticketHistory).ledger.template? 1 = some t ∧
      t.mapping = [("name", some "participant_name"), ("event", some "")] ∧
      t.missing = ["event"] ∧ ¬t.isReady = true := by
  have ordinary : ∀ step ∈ Launch.ticketHistory, Step.IsOrdinary step := by
    simp only [Launch.ticketHistory, Launch.ticketCalls, List.cons_append, List.nil_append,
      List.forall_mem_cons, Step.IsOrdinary, true_and]
    exact ⟨Launch.isOrdinary_circumstances, fun _ none => absurd none List.not_mem_nil⟩
  have within : ∀ step ∈ Launch.ticketHistory, Step.MapsWithin .standard step := by
    simp only [Launch.ticketHistory, Launch.ticketCalls, List.cons_append, List.nil_append,
      List.forall_mem_cons, Step.MapsWithin, Operation.MapsWithin, true_and]
    exact fun _ none => absurd none List.not_mem_nil
  have values : lastValue (acceptedCalls 1 Launch.ticketMade.2 Launch.ticketCalls) "name" =
        "participant_name" ∧
      lastValue (acceptedCalls 1 Launch.ticketMade.2 Launch.ticketCalls) "event" = "" := by
    decide +kernel
  obtain ⟨name, event⟩ := values
  have kept : ∀ step ∈ Launch.ticketCalls, step ≠ .operation (.deleteTemplate 1) := by
    simp only [Launch.ticketCalls, List.forall_mem_cons, ne_eq, Step.operation.injEq, reduceCtorEq,
      not_false_eq_true, true_and]
    exact fun _ none => absurd none List.not_mem_nil
  obtain ⟨made, reported, one, placeholders⟩ := Launch.exists_ticketMade
  obtain ⟨each, follow, -⟩ :=
    mappings_follow_accepted_calls Launch.isFresh_start ordinary within
  have found := follow (Launch.ticketCreation made) (Launch.isIn_ticketCreation reported)
    (one.symm ▸ kept)
  have same : (Launch.ticketCreation made).made = made := rfl
  have calls : (Launch.ticketCreation made).calls =
      acceptedCalls 1 Launch.ticketMade.2 Launch.ticketCalls := by
    simp only [Creation.calls, Launch.ticketCreation, one]
  rw [same, one, calls] at found
  have listed : ∀ value, (made.withValues value).mapping =
      [("name", some (value "name")), ("event", some (value "event"))] := by
    intro value
    unfold Template.withValues
    rw [placeholders]
    rfl
  obtain ⟨-, -, -, -, ready, missing, -⟩ := each _ (Ledger.mem_of_template? found)
  refine ⟨_, found, ?_, ?_, ?_⟩
  · rw [listed, name, event]
  · rw [missing, listed, name, event]
    decide
  · rw [ready, listed, name, event]
    decide

end Issuance
