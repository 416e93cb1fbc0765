import Issuance.Text.Blank
import Mathlib.Data.List.Basic
/-!
The pieces of a text between the characters at which it is cut, and what trimming leaves of a text.
Both are told by what the text is made of, and there is only one way to make it so.
-/

namespace Issuance
namespace Text

/-- A text is cut into pieces: between each two of them stands one character at which it is cut, and
in none of them such a character. -/
inductive IsCutInto (isCut : Char → Prop) : List Char → List (List Char) → Prop
  | whole {piece : List Char} (free : ∀ c ∈ piece, ¬isCut c) : IsCutInto isCut piece [piece]
  | cut {piece rest : List Char} {mark : Char} {pieces : List (List Char)}
      (free : ∀ c ∈ piece, ¬isCut c) (isMark : isCut mark) (others : IsCutInto isCut rest pieces) :
      IsCutInto isCut (piece ++ mark :: rest) (piece :: pieces)

/-- A character at which the text is not cut belongs to the first piece. -/
theorem IsCutInto.cons {isCut : Char → Prop} {c : Char} {rest first : List Char}
    {pieces : List (List Char)} (kept : ¬isCut c)
    (parted : IsCutInto isCut rest (first :: pieces)) :
    IsCutInto isCut (c :: rest) ((c :: first) :: pieces) := by
  have longer : (∀ d ∈ first, ¬isCut d) → ∀ d ∈ c :: first, ¬isCut d := fun free =>
    List.forall_mem_cons.2 ⟨kept, free⟩
  cases parted with
  | whole free => exact .whole (longer free)
  | cut free isMark others => exact .cut (longer free) isMark others

section

variable {isCut : Char → Bool}

theorem splitChars_of_free {cs : List Char} (free : ∀ c ∈ cs, isCut c = false) :
    splitChars isCut cs = [cs] := by
  induction cs with
  | nil => rfl
  | cons c rest ih =>
      have first : isCut c = false := free c List.mem_cons_self
      have later := ih (fun d inside => free d (List.mem_cons_of_mem c inside))
      simp only [splitChars, first, later, Bool.false_eq_true, if_false]

theorem splitChars_ne_nil (cs : List Char) : splitChars isCut cs ≠ [] := by
  cases cs with
  | nil => exact List.cons_ne_nil _ _
  | cons c rest =>
      rw [splitChars]
      split
      · exact List.cons_ne_nil _ _
      · split <;> exact List.cons_ne_nil _ _

theorem splitChars_append (before after : List Char) {cut : Char} (isOne : isCut cut = true) :
    splitChars isCut (before ++ cut :: after) =
      splitChars isCut before ++ splitChars isCut after := by
  induction before with
  | nil => simp only [List.nil_append, splitChars, isOne, if_true, List.cons_append]
  | cons c rest ih =>
      simp only [List.cons_append, splitChars, ih]
      split
      · rfl
      · cases first : splitChars isCut rest with
        | nil => exact absurd first (splitChars_ne_nil rest)
        | cons piece pieces => rfl

theorem isCutInto_splitChars (cs : List Char) :
    IsCutInto (isCut · = true) cs (splitChars isCut cs) := by
  induction cs with
  | nil => exact .whole fun _ none => absurd none List.not_mem_nil
  | cons c rest ih =>
      rw [splitChars]
      by_cases isMark : isCut c = true
      · rw [if_pos isMark]
        have first : IsCutInto (isCut · = true) ([] ++ c :: rest) ([] :: splitChars isCut rest) :=
          .cut (fun _ none => absurd none List.not_mem_nil) isMark ih
        exact first
      · rw [if_neg isMark]
        cases parted : splitChars isCut rest with
        | nil => exact absurd parted (splitChars_ne_nil rest)
        | cons first pieces =>
            rw [parted] at ih
            exact ih.cons isMark

/-- A text can be cut in one way only. -/
theorem isCutInto_iff {cs : List Char} {pieces : List (List Char)} :
    IsCutInto (isCut · = true) cs pieces ↔ splitChars isCut cs = pieces := by
  have alone : ∀ {piece : List Char}, (∀ c ∈ piece, ¬isCut c = true) →
      splitChars isCut piece = [piece] := fun free =>
    splitChars_of_free fun c inside => Bool.eq_false_iff.2 (free c inside)
  constructor
  · intro parted
    induction parted with
    | whole free => exact alone free
    | cut free isMark _ ih =>
        rw [splitChars_append _ _ isMark, alone free, ih]
        rfl
  · rintro rfl
    exact isCutInto_splitChars cs

theorem splitAt_append (mark : Char) (isMark : isCut mark = true) (before after : String) :
    splitAt isCut (before ++ String.singleton mark ++ after) =
      splitAt isCut before ++ splitAt isCut after := by
  unfold splitAt
  rw [String.toList_append, String.toList_append, String.toList_singleton, List.append_assoc,
    List.singleton_append, splitChars_append _ _ isMark, List.map_append]

theorem splitAt_of_free {s : String} (free : ∀ c ∈ s.toList, isCut c = false) :
    splitAt isCut s = [s] := by
  rw [splitAt, splitChars_of_free free, List.map_singleton, String.ofList_toList]

theorem append_intercalate_cons (front mark first : String) (rest : List String) :
    front ++ mark.intercalate (first :: rest) = mark.intercalate ((front ++ first) :: rest) := by
  cases rest with
  | nil => rw [String.intercalate_singleton, String.intercalate_singleton]
  | cons second rest =>
      rw [String.intercalate_cons_cons, String.intercalate_cons_cons, ← String.append_assoc,
        ← String.append_assoc]

/-- What a joined text consists of. -/
theorem forall_mem_intercalate {p : Char → Prop} {mark : String} {parts : List String}
    (marks : ∀ c ∈ mark.toList, p c) (all : ∀ s ∈ parts, ∀ c ∈ s.toList, p c) :
    ∀ c ∈ (mark.intercalate parts).toList, p c := by
  induction parts with
  | nil =>
      rw [String.intercalate_nil]
      exact fun _ none => absurd none List.not_mem_nil
  | cons first rest ih =>
      rw [List.forall_mem_cons] at all
      cases rest with
      | nil =>
          rw [String.intercalate_singleton]
          exact all.1
      | cons second rest =>
          rw [String.intercalate_cons_cons, String.toList_append, String.toList_append]
          simp only [List.forall_mem_append]
          exact ⟨⟨all.1, marks⟩, ih all.2⟩

/-- What is joined by commas with blanks behind them is parted again, and the blanks stay. -/
theorem splitAt_intercalate (comma : isCut ',' = true) (blank : isCut ' ' = false)
    {first : String} {rest : List String}
    (free : ∀ c ∈ first.toList, isCut c = false)
    (others : ∀ s ∈ rest, ∀ c ∈ s.toList, isCut c = false) :
    splitAt isCut (", ".intercalate (first :: rest)) = first :: rest.map (" " ++ ·) := by
  induction rest generalizing first with
  | nil =>
      rw [String.intercalate_singleton, splitAt_of_free free]
      rfl
  | cons second rest ih =>
      rw [List.forall_mem_cons] at others
      -- the blank behind the comma goes to the next piece, and the rest is joined as before
      have mark : first ++ ", " = first ++ String.singleton ',' ++ " " := by
        rw [String.append_assoc]
        rfl
      have parted : ", ".intercalate (first :: second :: rest) =
          first ++ String.singleton ',' ++ ", ".intercalate ((" " ++ second) :: rest) := by
        rw [String.intercalate_cons_cons, ← append_intercalate_cons, mark, String.append_assoc]
      have indented : ∀ c ∈ (" " ++ second).toList, isCut c = false := by
        rw [String.toList_append]
        exact List.forall_mem_cons.2 ⟨blank, others.1⟩
      rw [parted, splitAt_append ',' comma, splitAt_of_free free, ih indented others.2]
      rfl

end

/-- The characters at both ends are not among those to be dropped. -/
def EndsAreKept (drop : Char → Bool) (cs : List Char) : Prop :=
  ∀ c, cs.head? = some c ∨ cs.getLast? = some c → drop c = false

theorem dropWhile_append_of_head? {drop : Char → Bool} {left rest : List Char}
    (dropped : ∀ c ∈ left, drop c = true) (kept : ∀ c, rest.head? = some c → drop c = false) :
    (left ++ rest).dropWhile drop = rest := by
  rw [List.dropWhile_append_of_pos dropped]
  cases rest with
  | nil => rfl
  | cons c rest =>
      rw [List.dropWhile_cons, kept c rfl]
      rfl

/-- Only what stands at the ends is dropped, whatever is in between. -/
theorem stripChars_append_append {drop : Char → Bool} {left middle right : List Char}
    (kept : EndsAreKept drop middle) (before : ∀ c ∈ left, drop c = true)
    (after : ∀ c ∈ right, drop c = true) : stripChars drop (left ++ middle ++ right) = middle := by
  unfold stripChars
  cases middle with
  | nil =>
      have all : ∀ c ∈ left ++ right, drop c = true := by
        intro c member
        exact (List.mem_append.1 member).elim (before c) (after c)
      have nobody : ∀ c, ([] : List Char).head? = some c → drop c = false := by
        intro c found
        cases found
      rw [List.append_nil, ← List.append_nil (left ++ right), dropWhile_append_of_head? all nobody]
      rfl
  | cons first rest =>
      have backwards : (first :: rest ++ right).reverse =
          right.reverse ++ (first :: rest).reverse := List.reverse_append
      rw [List.append_assoc, dropWhile_append_of_head? before, backwards,
        dropWhile_append_of_head?, List.reverse_reverse]
      · exact fun c member => after c (List.mem_reverse.1 member)
      · intro c last
        rw [List.head?_reverse] at last
        exact kept c (Or.inr last)
      · exact fun c found => kept c (Or.inl found)

theorem head?_dropWhile {drop : Char → Bool} {cs : List Char} {c : Char}
    (found : (cs.dropWhile drop).head? = some c) : drop c = false := by
  have first := List.head?_dropWhile_not drop cs
  rwa [found] at first

/-- A text is what is left of it between characters that are dropped. -/
theorem exists_append_stripChars (drop : Char → Bool) (cs : List Char) :
    EndsAreKept drop (stripChars drop cs) ∧ ∃ left right, cs = left ++ stripChars drop cs ++ right ∧
      (∀ c ∈ left, drop c = true) ∧ ∀ c ∈ right, drop c = true := by
  have behind : cs.dropWhile drop =
      stripChars drop cs ++ ((cs.dropWhile drop).reverse.takeWhile drop).reverse := by
    unfold stripChars
    rw [← List.reverse_append, List.takeWhile_append_dropWhile, List.reverse_reverse]
  refine ⟨?_, cs.takeWhile drop, ((cs.dropWhile drop).reverse.takeWhile drop).reverse, ?_, ?_, ?_⟩
  · rintro c (first | last)
    · have found : (cs.dropWhile drop).head? = some c := by
        rw [behind, List.head?_append, first]
        rfl
      exact head?_dropWhile found
    · unfold stripChars at last
      rw [List.getLast?_reverse] at last
      exact head?_dropWhile last
  · rw [List.append_assoc, ← behind, List.takeWhile_append_dropWhile]
  · exact List.all_eq_true.1 List.all_takeWhile
  · intro c member
    exact List.all_eq_true.1 List.all_takeWhile c (List.mem_reverse.1 member)

/-- What is left of a text without the blanks at both ends. -/
def IsTrimOf (trimmed s : String) : Prop :=
  EndsAreKept isBlank trimmed.toList ∧ ∃ left right : String, s = left ++ trimmed ++ right ∧
    (∀ c ∈ left.toList, isBlank c = true) ∧ ∀ c ∈ right.toList, isBlank c = true

/-- Nothing else is left of a text than what trimming leaves. -/
theorem isTrimOf_iff {trimmed s : String} : IsTrimOf trimmed s ↔ trim s = trimmed := by
  constructor
  · rintro ⟨kept, left, right, rfl, before, after⟩
    rw [trim, String.toList_append, String.toList_append,
      stripChars_append_append kept before after, String.ofList_toList]
  · rintro rfl
    obtain ⟨kept, left, right, spelled, before, after⟩ := exists_append_stripChars isBlank s.toList
    refine ⟨?_, String.ofList left, String.ofList right, ?_, ?_, ?_⟩
    · rwa [trim, String.toList_ofList]
    · rw [← String.toList_inj, String.toList_append, String.toList_append, trim]
      simp only [String.toList_ofList]
      exact spelled
    · rwa [String.toList_ofList]
    · rwa [String.toList_ofList]

/-- Trimming takes off the blanks on both sides of a text without blanks. -/
theorem trim_append_append {left middle right : String}
    (before : ∀ c ∈ left.toList, isBlank c = true) (kept : ∀ c ∈ middle.toList, isBlank c = false)
    (after : ∀ c ∈ right.toList, isBlank c = true) : trim (left ++ middle ++ right) = middle := by
  refine isTrimOf_iff.1 ⟨?_, left, right, rfl, before, after⟩
  rintro c (first | last)
  · exact kept c (List.mem_of_head? first)
  · exact kept c (List.mem_of_getLast? last)

end Text
end Issuance
