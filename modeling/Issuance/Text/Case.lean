import Issuance.Text.CaseTable
/-!
Full Unicode case mapping of texts.

Each letter has one image, except the capital sigma: at the end of a word it becomes `ς`, which
depends on the nearest characters around it that casing does not look through.
-/

namespace Issuance
namespace Text

def inRanges (ranges : Array (Nat × Nat)) (c : Char) : Bool :=
  ranges.any fun range => range.1 ≤ c.toNat && c.toNat ≤ range.2

/-- The image of a character under a table of runs and a table of expansions. -/
def caseImage (runs : Array CaseRun) (expansions : Array (Nat × List Nat)) (c : Char) :
    List Char :=
  match runs.find? (·.contains c.toNat) with
  | some run => [Char.ofNat ((c.toNat : Int) + run.delta).toNat]
  | none =>
    match expansions.find? (·.1 == c.toNat) with
    | some (_, codes) => codes.map Char.ofNat
    | none => [c]

/-- Whether the first character that casing does not look through has case. -/
def cased? (cs : List Char) : Bool :=
  match cs.dropWhile (inRanges caseIgnorableRanges) with
  | [] => false
  | c :: _ => inRanges casedRanges c

/-- The lower-case image of a character that stands between `before`, nearest first, and
`after`. -/
def lowerChar (before : List Char) (c : Char) (after : List Char) : List Char :=
  if c = 'Σ' then
    if cased? before && !cased? after then ['ς'] else ['σ']
  else
    caseImage lowerRuns lowerExpansions c

/-- The lower-case image of the second list, with what stands before it given nearest first. -/
def lowerChars (before : List Char) : List Char → List Char
  | [] => []
  | c :: rest => lowerChar before c rest ++ lowerChars (c :: before) rest

def lower (s : String) : String :=
  String.ofList (lowerChars [] s.toList)

def upper (s : String) : String :=
  String.ofList (s.toList.flatMap (caseImage upperRuns upperExpansions))

end Text
end Issuance
