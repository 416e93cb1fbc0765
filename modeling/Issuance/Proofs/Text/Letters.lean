import Mathlib.Data.List.Forall2
import Issuance.Proofs.Text.Pieces
import Issuance.Text.Case
/-!
Letters and blanks. What the case tables do to the characters of codes, to their small forms and to
blanks, and what is left of a code that is written in other letters between blanks.
-/

namespace Issuance
namespace Text

/-- The same character, or the one is the capital or the small form of the other. -/
def IsLetterForm (form letter : Char) : Prop :=
  form = letter ∨ caseImage upperRuns upperExpansions form = [letter] ∨
    caseImage lowerRuns lowerExpansions letter = [form]

/-- Two texts that differ at most in the case of their letters. -/
def IsCaseVariant (variant text : String) : Prop :=
  List.Forall₂ IsLetterForm variant.toList text.toList

instance (form letter : Char) : Decidable (IsLetterForm form letter) :=
  inferInstanceAs (Decidable (_ ∨ _ ∨ _))

instance (variant text : String) : Decidable (IsCaseVariant variant text) :=
  inferInstanceAs (Decidable (List.Forall₂ _ _ _))

/-- A text that differs from another at most in the case of its letters and in blanks around it. -/
def IsLooseForm (loose text : String) : Prop :=
  ∃ left variant right, (∀ c ∈ left.toList, isBlank c = true) ∧
    (∀ c ∈ right.toList, isBlank c = true) ∧ IsCaseVariant variant text ∧
    loose = left ++ variant ++ right

/-- Capitals, digits and other characters that stand before the small letters and are not blank. -/
def IsCodeChar (c : Char) : Prop := 0x21 ≤ c.toNat ∧ c.toNat < 0x5B

instance (c : Char) : Decidable (IsCodeChar c) := inferInstanceAs (Decidable (_ ∧ _))

theorem caseImage_eq_self {runs : Array CaseRun} {expansions : Array (Nat × List Nat)} {c : Char}
    (noRun : ∀ run ∈ runs.toList, run.contains c.toNat = false)
    (noExpansion : ∀ entry ∈ expansions.toList, (entry.1 == c.toNat) = false) :
    caseImage runs expansions c = [c] := by
  have outside : runs.find? (·.contains c.toNat) = none := by
    rw [Array.find?_eq_none]
    intro run member
    rw [noRun run (Array.mem_toList_iff.2 member)]
    exact Bool.false_ne_true
  have plain : expansions.find? (·.1 == c.toNat) = none := by
    rw [Array.find?_eq_none]
    intro entry member
    rw [noExpansion entry (Array.mem_toList_iff.2 member)]
    exact Bool.false_ne_true
  simp only [caseImage, outside, plain]

/-- A table that begins above a character leaves it as it is. -/
theorem caseImage_eq_self_of_lt {runs : Array CaseRun} {expansions : Array (Nat × List Nat)}
    {bound : Nat} (above : (runs.toList.all fun run => bound ≤ run.first) = true)
    (above' : (expansions.toList.all fun entry => bound ≤ entry.1) = true) {c : Char}
    (below : c.toNat < bound) : caseImage runs expansions c = [c] := by
  rw [List.all_eq_true] at above above'
  apply caseImage_eq_self
  · intro run member
    have first : bound ≤ run.first := of_decide_eq_true (above run member)
    have outside : ¬run.first ≤ c.toNat := by omega
    simp only [CaseRun.contains, decide_eq_false outside, Bool.false_and]
  · intro entry member
    have first : bound ≤ entry.1 := of_decide_eq_true (above' entry member)
    exact beq_eq_false_iff_ne.2 (by omega)

theorem upperImage_of_lt {c : Char} (below : c.toNat < 0x61) :
    caseImage upperRuns upperExpansions c = [c] :=
  caseImage_eq_self_of_lt (by decide +kernel) (by decide +kernel) below

theorem lowerImage_of_lt {c : Char} (below : c.toNat < 0x41) :
    caseImage lowerRuns lowerExpansions c = [c] :=
  caseImage_eq_self_of_lt (by decide +kernel) (by decide +kernel) below

private theorem images_of_letter : ∀ n < 26,
    caseImage lowerRuns lowerExpansions (Char.ofNat (0x41 + n)) = [Char.ofNat (0x61 + n)] ∧
      caseImage upperRuns upperExpansions (Char.ofNat (0x61 + n)) = [Char.ofNat (0x41 + n)] := by
  decide +kernel

/-- The blanks behind the capitals. -/
def farBlanks : List Nat :=
  [0x85, 0xA0, 0x1680, 0x2000, 0x2001, 0x2002, 0x2003, 0x2004, 0x2005, 0x2006, 0x2007, 0x2008,
    0x2009, 0x200A, 0x2028, 0x2029, 0x202F, 0x205F, 0x3000]

theorem mem_farBlanks {c : Char} (blank : isBlank c = true) (far : 0x41 ≤ c.toNat) :
    c.toNat ∈ farBlanks := by
  simp only [isBlank, Bool.or_eq_true, Bool.and_eq_true, decide_eq_true_eq, beq_iff_eq] at blank
  simp only [farBlanks, List.mem_cons, List.not_mem_nil, or_false]
  omega

/-- A table that speaks of none of the far blanks leaves them as they are. -/
theorem caseImage_of_mem_farBlanks {runs : Array CaseRun} {expansions : Array (Nat × List Nat)}
    (noRun : (runs.toList.all fun run => farBlanks.all fun code => !run.contains code) = true)
    (noExpansion : (expansions.toList.all fun entry =>
      farBlanks.all fun code => !(entry.1 == code)) = true)
    {c : Char} (far : c.toNat ∈ farBlanks) : caseImage runs expansions c = [c] := by
  simp only [List.all_eq_true, Bool.not_eq_true'] at noRun noExpansion
  exact caseImage_eq_self (fun run member => noRun run member _ far)
    (fun entry member => noExpansion entry member _ far)

/-- Blanks have no case. -/
theorem upperImage_of_isBlank {c : Char} (blank : isBlank c = true) :
    caseImage upperRuns upperExpansions c = [c] := by
  by_cases below : c.toNat < 0x61
  · exact upperImage_of_lt below
  · exact caseImage_of_mem_farBlanks (by decide +kernel) (by decide +kernel)
      (mem_farBlanks blank (by omega))

theorem IsCodeChar.not_isBlank {c : Char} (code : IsCodeChar c) : isBlank c = false := by
  obtain ⟨above, below⟩ := code
  rw [← Bool.not_eq_true]
  intro blank
  simp only [isBlank, Bool.or_eq_true, Bool.and_eq_true, decide_eq_true_eq, beq_iff_eq] at blank
  omega

theorem IsLetterForm.upperImage {form letter : Char} (same : IsLetterForm form letter)
    (code : IsCodeChar letter) : caseImage upperRuns upperExpansions form = [letter] := by
  have capital := code.2
  rcases same with rfl | raised | lowered
  · exact upperImage_of_lt (by omega)
  · exact raised
  · by_cases below : letter.toNat < 0x41
    · rw [lowerImage_of_lt below] at lowered
      rw [← (List.cons.inj lowered).1]
      exact upperImage_of_lt (by omega)
    · have images := images_of_letter (letter.toNat - 0x41) (by omega)
      have here : Char.ofNat (0x41 + (letter.toNat - 0x41)) = letter := by
        rw [Nat.add_sub_cancel' (Nat.le_of_not_lt below), Char.ofNat_toNat]
      rw [here, lowered] at images
      rw [(List.cons.inj images.1).1]
      exact images.2

theorem IsLetterForm.not_isBlank {form letter : Char} (same : IsLetterForm form letter)
    (code : IsCodeChar letter) : isBlank form = false := by
  rw [← Bool.not_eq_true]
  intro blank
  have fixed := upperImage_of_isBlank blank
  rw [same.upperImage code] at fixed
  rw [← (List.cons.inj fixed).1, code.not_isBlank] at blank
  cases blank

theorem upper_of_isCaseVariant {variant text : String} (same : IsCaseVariant variant text)
    (code : ∀ c ∈ text.toList, IsCodeChar c) : upper variant = text := by
  unfold IsCaseVariant at same
  have spelled : variant.toList.flatMap (caseImage upperRuns upperExpansions) = text.toList := by
    generalize variant.toList = forms at same
    generalize text.toList = letters at same code
    induction same with
    | nil => rfl
    | cons first _ ih =>
        rw [List.flatMap_cons, first.upperImage (code _ List.mem_cons_self),
          ih fun c member => code c (List.mem_cons_of_mem _ member)]
        rfl
  rw [upper, spelled, String.ofList_toList]

theorem not_isBlank_of_isCaseVariant {variant text : String} (same : IsCaseVariant variant text)
    (code : ∀ c ∈ text.toList, IsCodeChar c) : ∀ c ∈ variant.toList, isBlank c = false := by
  unfold IsCaseVariant at same
  generalize variant.toList = forms at same
  generalize text.toList = letters at same code
  induction same with
  | nil => exact fun _ none => absurd none List.not_mem_nil
  | cons first _ ih =>
      intro c member
      rcases List.mem_cons.1 member with rfl | later
      · exact first.not_isBlank (code _ List.mem_cons_self)
      · exact ih (fun d inside => code d (List.mem_cons_of_mem _ inside)) c later

/-- Blanks around a code and the case of its letters make no difference. -/
theorem upper_trim_of_isLooseForm {loose text : String} (same : IsLooseForm loose text)
    (code : ∀ c ∈ text.toList, IsCodeChar c) : upper (trim loose) = text := by
  obtain ⟨left, variant, right, before, after, variation, rfl⟩ := same
  have raised := upper_of_isCaseVariant variation code
  rw [trim_append_append before (not_isBlank_of_isCaseVariant variation code) after, raised]

end Text
end Issuance
