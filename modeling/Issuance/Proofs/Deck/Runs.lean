import Issuance.Proofs.Deck.Filling
import Issuance.Proofs.Placeholder.Boundaries
/-!
Filling in a paragraph, against filling in the text that its runs make together. Both come to the
same text. The runs keep their own texts if no token lies across two of them; otherwise the first
one takes the whole.
-/

namespace Issuance
namespace Deck

/-- A text that a run takes over as it is: no character is written as an escape, and none is
refused. -/
def IsVerbatim (s : String) : Prop := ∀ c ∈ s.toList, isEscaped c = false ∧ isExcluded c = false

instance (s : String) : Decidable (IsVerbatim s) :=
  List.decidableBAll (fun c => isEscaped c = false ∧ isExcluded c = false) s.toList

theorem writtenText_of_isVerbatim {s : String} (verbatim : IsVerbatim s) :
    writtenText s = .ok s := by
  have allowed : s.toList.any isExcluded = false :=
    any_isExcluded_eq_false_iff.2 fun c member => (verbatim c member).2
  have kept : s.toList.flatMap writtenChar = s.toList := by
    refine (List.flatMap_congr fun c member => ?_).trans (List.flatMap_singleton' s.toList)
    unfold writtenChar
    rw [(verbatim c member).1]
    rfl
  unfold writtenText
  rw [allowed, kept, String.ofList_toList]
  rfl

/-- Some token of the joined text lies across two runs. -/
def IsStraddled (p : Paragraph) : Prop :=
  ∃ front back, runTexts p = front ++ back ∧
    Placeholder.Crosses (String.join front).toList (String.join back).toList

theorem not_isStraddled_iff {p : Paragraph} :
    ¬IsStraddled p ↔ Placeholder.MeetApart (runTexts p) := by
  unfold IsStraddled Placeholder.MeetApart
  simp only [not_exists, not_and]

theorem isRunwise_iff {p : Paragraph} : isRunwise p = true ↔ ¬IsStraddled p := by
  rw [not_isStraddled_iff, Placeholder.meetApart_iff, isRunwise, beq_iff_eq]
  rfl

section

variable {lookup : Lookup}

/-- How a piece of a paragraph is filled in on its own: only a run with a placeholder changes. -/
inductive FilledIn (lookup : Lookup) : Inline → Inline → Prop
  | run (s t : String) (bold : Bool) (filled : Placeholder.fill lookup s = .ok t)
      (kept : Placeholder.occursIn s = false → t = s) : FilledIn lookup (.run s bold) (.run t bold)
  | lineBreak : FilledIn lookup .lineBreak .lineBreak
  | field (s : String) : FilledIn lookup (.field s) (.field s)

/-- A look-up that answers some names with texts that a run takes over as they are. -/
def Lookup.Answers (lookup : Lookup) (names : List String) : Prop :=
  ∀ name ∈ names, ∃ value, lookup name = .ok value ∧ IsVerbatim value

theorem Lookup.Answers.mono {names others : List String} (answers : lookup.Answers names)
    (fewer : others ⊆ names) : lookup.Answers others :=
  fun name member => answers name (fewer member)

theorem exists_filledText {s : String} (verbatim : IsVerbatim s)
    (answers : lookup.Answers (Placeholder.names s)) :
    ∃ t, Placeholder.fill lookup s = .ok t ∧ filledText lookup s = .ok t := by
  obtain ⟨t, done⟩ := Placeholder.exists_fill fun name member =>
    (answers name member).imp fun _ found => found.1
  refine ⟨t, done, ?_⟩
  have taken : IsVerbatim t := by
    refine (Placeholder.forall_mem_fill_iff verbatim done).2 fun name member value found => ?_
    obtain ⟨other, same, clean⟩ := answers name member
    cases found.symm.trans same
    exact clean
  unfold filledText
  rw [done]
  change (writtenText t).mapError Failure.defect = _
  rw [writtenText_of_isVerbatim taken]
  rfl

/-- Each run is filled in on its own, and everything else stays. -/
theorem exists_fillRuns {p : Paragraph} (verbatim : ∀ s ∈ runTexts p, IsVerbatim s)
    (answers : lookup.Answers ((runTexts p).flatMap Placeholder.names)) :
    ∃ q, fillRuns lookup p = .ok q ∧ List.Forall₂ (FilledIn lookup) p q := by
  induction p with
  | nil => exact ⟨[], rfl, .nil⟩
  | cons piece rest ih =>
      cases piece with
      | run s bold =>
          have names : (runTexts (.run s bold :: rest)).flatMap Placeholder.names =
              Placeholder.names s ++ (runTexts rest).flatMap Placeholder.names := rfl
          rw [names] at answers
          obtain ⟨others, remaining, related⟩ := ih
            (fun t member => verbatim t (List.mem_cons_of_mem _ member))
            (answers.mono (List.subset_append_right _ _))
          rw [fillRuns, remaining]
          cases occurs : Placeholder.occursIn s with
          | true =>
              obtain ⟨t, filled, written⟩ := exists_filledText (verbatim s List.mem_cons_self)
                (answers.mono (List.subset_append_left _ _))
              rw [written]
              refine ⟨.run t bold :: others, rfl, .cons (.run s t bold filled ?_) related⟩
              intro plain
              rw [occurs] at plain
              cases plain
          | false =>
              have plain : Placeholder.fill lookup s = .ok s :=
                Placeholder.fill_of_names_eq_nil (occursIn_eq_false_iff.1 occurs)
              exact ⟨.run s bold :: others, rfl, .cons (.run s s bold plain fun _ => rfl) related⟩
      | lineBreak =>
          obtain ⟨others, remaining, related⟩ := ih verbatim answers
          rw [fillRuns, remaining]
          · exact ⟨.lineBreak :: others, rfl, .cons .lineBreak related⟩
          · intro t bold run
            cases run
      | field s =>
          obtain ⟨others, remaining, related⟩ := ih verbatim answers
          rw [fillRuns, remaining]
          · exact ⟨.field s :: others, rfl, .cons (.field s) related⟩
          · intro t bold run
            cases run

theorem runTexts_of_filledIn {p q : Paragraph} (related : List.Forall₂ (FilledIn lookup) p q) :
    List.Forall₂ (fun s t => Placeholder.fill lookup s = .ok t) (runTexts p) (runTexts q) := by
  induction related with
  | nil => exact .nil
  | cons first _ ih =>
      cases first with
      | run s t bold filled kept => exact .cons filled ih
      | lineBreak => exact ih
      | field s => exact ih

theorem filledIn_of_names_eq_nil {p : Paragraph}
    (plain : ∀ s ∈ runTexts p, Placeholder.names s = []) : List.Forall₂ (FilledIn lookup) p p := by
  induction p with
  | nil => exact .nil
  | cons piece rest ih =>
      cases piece with
      | run s bold =>
          have here : Placeholder.fill lookup s = .ok s :=
            Placeholder.fill_of_names_eq_nil (plain s List.mem_cons_self)
          exact .cons (.run s s bold here fun _ => rfl)
            (ih fun t member => plain t (List.mem_cons_of_mem _ member))
      | lineBreak => exact .cons .lineBreak (ih plain)
      | field s => exact .cons (.field s) (ih plain)

end

/-- The first run of a paragraph has a text, and the others are empty. -/
theorem exists_gatherRuns {p : Paragraph} (some : runTexts p ≠ []) (s : String) :
    ∃ before t bold after, p = before ++ .run t bold :: after ∧ runTexts before = [] ∧
      gatherRuns s p = before ++ .run s bold :: emptyRuns after := by
  induction p with
  | nil => exact absurd rfl some
  | cons piece rest ih =>
      cases piece with
      | run t bold => exact ⟨[], t, bold, rest, rfl, rfl, rfl⟩
      | lineBreak =>
          obtain ⟨before, t, bold, after, rfl, none, gathered⟩ := ih some
          exact ⟨.lineBreak :: before, t, bold, after, rfl, none,
            congrArg (Inline.lineBreak :: ·) gathered⟩
      | field u =>
          obtain ⟨before, t, bold, after, rfl, none, gathered⟩ := ih some
          exact ⟨.field u :: before, t, bold, after, rfl, none,
            congrArg (Inline.field u :: ·) gathered⟩

theorem join_runTexts_emptyRuns (p : Paragraph) : String.join (runTexts (emptyRuns p)) = "" := by
  induction p with
  | nil => rfl
  | cons piece rest ih =>
      cases piece with
      | run s bold =>
          change String.join ("" :: runTexts (emptyRuns rest)) = ""
          rw [String.join_cons, ih]
          rfl
      | lineBreak => exact ih
      | field s => exact ih

theorem text_gatherRuns {p : Paragraph} (some : runTexts p ≠ []) (s : String) :
    text (gatherRuns s p) = s := by
  obtain ⟨before, t, bold, after, -, none, gathered⟩ := exists_gatherRuns some s
  have runs : runTexts (gatherRuns s p) = s :: runTexts (emptyRuns after) := by
    rw [gathered, runTexts, List.filterMap_append]
    change runTexts before ++ s :: runTexts (emptyRuns after) = _
    rw [none, List.nil_append]
  rw [text, runs, String.join_cons, join_runTexts_emptyRuns, String.append_empty]

/-- A paragraph that is filled in reads as its text does with the placeholders replaced, and differs
in the texts of its runs only. If no token lies across two runs, each run is filled in on its own and
one without a placeholder stays as it is; otherwise the first run has the whole text and the others
are empty. -/
theorem paragraph_reads_as_filled_in {p : Paragraph} {lookup : Lookup}
    (verbatim : ∀ s ∈ runTexts p, IsVerbatim s)
    (answers : lookup.Answers (Placeholder.names (text p))) :
    ∃ q, fillParagraph lookup p = .ok q ∧ Placeholder.fill lookup (text p) = .ok (text q) ∧
      emptyRuns q = emptyRuns p ∧
      (¬IsStraddled p → List.Forall₂ (FilledIn lookup) p q) ∧
      (IsStraddled p → ∃ before s bold after, p = before ++ .run s bold :: after ∧
        runTexts before = [] ∧ q = before ++ .run (text q) bold :: emptyRuns after) := by
  cases occurs : Placeholder.occursIn (text p) with
  | false =>
      have plain := occursIn_eq_false_iff.1 occurs
      have inRuns : (runTexts p).flatMap Placeholder.names = [] := by
        have fewer := Placeholder.sublist_names_join (runTexts p)
        rw [text] at plain
        rw [plain] at fewer
        exact List.sublist_nil.1 fewer
      have apart : ¬IsStraddled p := by
        rw [← isRunwise_iff, isRunwise, inRuns, plain]
        rfl
      refine ⟨p, ?_, Placeholder.fill_of_names_eq_nil plain, rfl, fun _ => ?_,
        fun straddled => absurd straddled apart⟩
      · unfold fillParagraph
        rw [occurs]
        rfl
      · exact filledIn_of_names_eq_nil fun s member => List.flatMap_eq_nil_iff.1 inRuns s member
  | true =>
      cases runwise : isRunwise p with
      | true =>
          have apart := isRunwise_iff.1 runwise
          obtain ⟨q, done, related⟩ :=
            exists_fillRuns verbatim (names_of_isRunwise runwise ▸ answers)
          refine ⟨q, ?_, ?_, emptyRuns_fillRuns done, fun _ => related,
            fun straddled => absurd straddled apart⟩
          · unfold fillParagraph
            rw [occurs, runwise]
            exact done
          · exact Placeholder.fill_join (not_isStraddled_iff.1 apart) (runTexts_of_filledIn related)
      | false =>
          have straddled : IsStraddled p := by
            by_contra apart
            rw [isRunwise_iff.2 apart] at runwise
            cases runwise
          have some : runTexts p ≠ [] := by
            intro none
            rw [text, none] at occurs
            exact absurd occurs (by decide +kernel)
          obtain ⟨filled, done, written⟩ := exists_filledText (forall_mem_text verbatim) answers
          obtain ⟨before, s, bold, after, split, none, gathered⟩ := exists_gatherRuns some filled
          refine ⟨gatherRuns filled p, ?_, ?_, emptyRuns_gatherRuns filled p,
            fun apart => absurd straddled apart,
            fun _ => ⟨before, s, bold, after, split, none, ?_⟩⟩
          · unfold fillParagraph
            rw [occurs, runwise, written]
            rfl
          · rw [text_gatherRuns some]
            exact done
          · rw [text_gatherRuns some]
            exact gathered

/-- Braces stand at the ends of its runs, but its one token lies within one of them. -/
def bracedLine : Paragraph :=
  [.run "\x7b" false, .run "\x7b\x7bname\x7d\x7d" true, .field "7", .run "\x7d\x7d" false]

/-- Its first token lies across three runs, the second one within the last. -/
def straddledLine : Paragraph :=
  [.lineBreak, .run "For \x7b" true, .run "\x7bna" false, .lineBreak,
    .run "me\x7d\x7d of \x7b\x7bclub\x7d\x7d" true]

/-- A look-up that finds a name and a club, and the former in double braces. -/
def memberLookup : Lookup
  | "name" => .ok "\x7b\x7bAda\x7d\x7d"
  | "club" => .ok "the club"
  | name => .error (.missingFieldValue name)

theorem bracedLine_and_straddledLine_read_as_filled_in :
    (∃ q, fillParagraph memberLookup bracedLine = .ok q ∧
        ¬IsStraddled bracedLine ∧ List.Forall₂ (FilledIn memberLookup) bracedLine q ∧
        text q = "\x7b\x7b\x7bAda\x7d\x7d\x7d\x7d") ∧
      ∃ q, fillParagraph memberLookup straddledLine = .ok q ∧ IsStraddled straddledLine ∧
        q = [.lineBreak, .run (text q) true, .run "" false, .lineBreak, .run "" true] ∧
        text q = "For \x7b\x7bAda\x7d\x7d of the club" := by
  have answers : ∀ name ∈ ["name", "club"], ∃ value,
      memberLookup name = .ok value ∧ IsVerbatim value := by
    intro name member
    simp only [List.mem_cons, List.not_mem_nil, or_false] at member
    rcases member with rfl | rfl
    · exact ⟨_, rfl, by decide +kernel⟩
    · exact ⟨_, rfl, by decide +kernel⟩
  constructor
  · have listed : Placeholder.names (text bracedLine) = ["name"] := by decide +kernel
    have apart : ¬IsStraddled bracedLine := isRunwise_iff.1 (by decide +kernel)
    obtain ⟨q, done, filled, -, each, -⟩ := @paragraph_reads_as_filled_in bracedLine memberLookup
      (by decide +kernel) (by
        rw [listed]
        exact fun name member => answers name (by
          rw [List.mem_singleton.1 member]
          exact List.mem_cons_self))
    have whole : Placeholder.fill memberLookup (text bracedLine) =
        .ok "\x7b\x7b\x7bAda\x7d\x7d\x7d\x7d" := by
      decide +kernel
    rw [whole] at filled
    exact ⟨q, done, apart, each apart, (Except.ok.inj filled).symm⟩
  · have listed : Placeholder.names (text straddledLine) = ["name", "club"] := by decide +kernel
    have straddled : IsStraddled straddledLine := by
      by_contra apart
      exact absurd (isRunwise_iff.2 apart) (by decide +kernel)
    obtain ⟨q, done, filled, -, -, gathered⟩ :=
      @paragraph_reads_as_filled_in straddledLine memberLookup (by decide +kernel)
        (by rw [listed]; exact answers)
    have whole : Placeholder.fill memberLookup (text straddledLine) =
        .ok "For \x7b\x7bAda\x7d\x7d of the club" := by
      decide +kernel
    rw [whole] at filled
    obtain ⟨before, s, bold, after, split, none, same⟩ := gathered straddled
    refine ⟨q, done, straddled, ?_, (Except.ok.inj filled).symm⟩
    -- only the break stands before the first run
    cases before with
    | nil => cases split
    | cons first before =>
        obtain ⟨-, later⟩ := List.cons.inj split
        cases before with
        | nil =>
            obtain ⟨here, rest⟩ := List.cons.inj later
            obtain ⟨-, rfl⟩ := Inline.run.inj here
            refine same.trans ?_
            rw [← rest, ← (List.cons.inj split).1]
            rfl
        | cons second before =>
            rw [← (List.cons.inj later).1, ← (List.cons.inj split).1] at none
            cases none

end Deck
end Issuance
