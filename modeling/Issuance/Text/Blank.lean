/-!
Blank characters, trimming, and the words of a text.

A text is handled as its list of characters; the `String` forms wrap the list forms.
-/

namespace Issuance
namespace Text

/-- Unicode white space, with the four information separators counted as blank. -/
def isBlank (c : Char) : Bool :=
  let code := c.toNat
  (9 ≤ code && code ≤ 13) || (28 ≤ code && code ≤ 32) || code == 0x85 || code == 0xA0
    || code == 0x1680 || (0x2000 ≤ code && code ≤ 0x200A) || code == 0x2028 || code == 0x2029
    || code == 0x202F || code == 0x205F || code == 0x3000

/-- The blanks that may stand around a numeral: all but the information separators. -/
def isMargin (c : Char) : Bool :=
  isBlank c && !(28 ≤ c.toNat && c.toNat ≤ 31)

/-- The characters that are left after the given ones are taken off both ends. -/
def stripChars (drop : Char → Bool) (cs : List Char) : List Char :=
  ((cs.dropWhile drop).reverse.dropWhile drop).reverse

def trim (s : String) : String :=
  String.ofList (stripChars isBlank s.toList)

/-- The maximal blocks without a blank, in order. -/
def blankFreeBlocks : List Char → List (List Char)
  | [] => []
  | c :: rest =>
    if isBlank c then
      blankFreeBlocks rest
    else
      match rest with
      | [] => [[c]]
      | d :: _ =>
        if isBlank d then
          [c] :: blankFreeBlocks rest
        else
          match blankFreeBlocks rest with
          | [] => [[c]]
          | block :: blocks => (c :: block) :: blocks

/-- The words of a text: what stands between its blanks. -/
def words (s : String) : List String :=
  (blankFreeBlocks s.toList).map String.ofList

/-- The text without the given characters at its end. -/
def trimEnd (drop : Char → Bool) (s : String) : String :=
  String.ofList (s.toList.reverse.dropWhile drop).reverse

/-- Cuts at every character that satisfies the test; `n` cuts leave `n + 1` pieces. -/
def splitChars (isCut : Char → Bool) : List Char → List (List Char)
  | [] => [[]]
  | c :: rest =>
    if isCut c then
      [] :: splitChars isCut rest
    else
      match splitChars isCut rest with
      | [] => [[c]]
      | piece :: pieces => (c :: piece) :: pieces

/-- No piece holds a character at which the text was cut. -/
theorem not_isCut_of_mem_splitChars {isCut : Char → Bool} {cs piece : List Char} {c : Char}
    (isPiece : piece ∈ splitChars isCut cs) (inside : c ∈ piece) : isCut c = false := by
  induction cs generalizing piece with
  | nil =>
    rw [splitChars, List.mem_singleton] at isPiece
    subst isPiece
    cases inside
  | cons d rest ih =>
    rw [splitChars] at isPiece
    split at isPiece
    · rcases List.mem_cons.1 isPiece with rfl | later
      · cases inside
      · exact ih later inside
    · next notCut =>
      split at isPiece
      · rw [List.mem_singleton] at isPiece
        subst isPiece
        rw [List.mem_singleton] at inside
        subst inside
        simpa using notCut
      · next first pieces pieces_eq =>
        rcases List.mem_cons.1 isPiece with rfl | later
        · rcases List.mem_cons.1 inside with rfl | deeper
          · simpa using notCut
          · exact ih (pieces_eq ▸ List.mem_cons_self) deeper
        · exact ih (pieces_eq ▸ List.mem_cons_of_mem _ later) inside

/-- The pieces of a text between the characters that satisfy the test. -/
def splitAt (isCut : Char → Bool) (s : String) : List String :=
  (splitChars isCut s.toList).map String.ofList

end Text
end Issuance
