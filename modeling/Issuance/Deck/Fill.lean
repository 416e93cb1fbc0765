import Issuance.Deck.Basic
import Issuance.Field
/-!
Filling in the placeholders of a deck.

A paragraph is searched as the text that its runs make together. If no token straddles two runs,
each run is filled in on its own; otherwise the first run takes the whole text and the others are
emptied. Nothing but the texts of runs changes.
-/

namespace Issuance
namespace Deck

/-- Whether a character is written as an escape: the control characters but tab and line feed. -/
def isEscaped (c : Char) : Bool := c.toNat < 0x20 && c ≠ '\t' && c ≠ '\n'

/-- Whether a deck cannot hold a character at all. -/
def isExcluded (c : Char) : Bool := c.toNat = 0xFFFE || c.toNat = 0xFFFF

/-- A character as it is written into a run. -/
def writtenChar (c : Char) : List Char :=
  if isEscaped c then
    ['_', 'x'] ++ (Text.hexDigits 4 c.toNat).map Char.toUpper ++ ['_']
  else [c]

def writtenText (s : String) : Except Defect String :=
  if s.toList.any isExcluded then
    .error (.badValue
      "All strings must be XML compatible: Unicode or ASCII, no NULL bytes or control characters")
  else .ok (String.ofList (s.toList.flatMap writtenChar))

/-- How a placeholder's value is looked up while filling in. -/
abbrev Lookup := String → Except Error String

def filledText (lookup : Lookup) (s : String) : Except Failure String := do
  let filled ← (Placeholder.fill lookup s).mapError Failure.error
  (writtenText filled).mapError Failure.defect

/-- Each run filled in on its own; a run without a placeholder stays as it is. -/
def fillRuns (lookup : Lookup) : Paragraph → Except Failure Paragraph
  | [] => .ok []
  | .run text bold :: rest => do
    let text ← if Placeholder.occursIn text then filledText lookup text else pure text
    let rest ← fillRuns lookup rest
    return .run text bold :: rest
  | other :: rest => do
    let rest ← fillRuns lookup rest
    return other :: rest

def emptyRuns (p : Paragraph) : Paragraph :=
  p.map fun
    | .run _ bold => .run "" bold
    | other => other

/-- The first run given a text, and the others emptied. -/
def gatherRuns (text : String) : Paragraph → Paragraph
  | [] => []
  | .run _ bold :: rest => .run text bold :: emptyRuns rest
  | other :: rest => other :: gatherRuns text rest

/-- Whether every token of a paragraph lies within one run. -/
def isRunwise (p : Paragraph) : Bool :=
  ((runTexts p).flatMap Placeholder.names).length == (Placeholder.names (text p)).length

def fillParagraph (lookup : Lookup) (p : Paragraph) : Except Failure Paragraph :=
  if !Placeholder.occursIn (text p) then .ok p
  else if isRunwise p then fillRuns lookup p
  else do
    let filled ← filledText lookup (text p)
    return gatherRuns filled p

mutual

/-- A shape with its placeholders filled in, in reading order. -/
def fillShape (lookup : Lookup) : Shape → Except Failure Shape
  | .textBox ps => (ps.mapM (fillParagraph lookup)).map .textBox
  | .rectangle ps => (ps.mapM (fillParagraph lookup)).map .rectangle
  | .table rows =>
    (rows.mapM fun (row : List (List Paragraph)) =>
      row.mapM fun (cell : List Paragraph) => cell.mapM (fillParagraph lookup)).map .table
  | .group shapes => (fillShapes lookup shapes).map .group
  | .picture => .ok .picture
  | .connector => .ok .connector

def fillShapes (lookup : Lookup) : List Shape → Except Failure (List Shape)
  | [] => .ok []
  | shape :: rest => do
    let shape ← fillShape lookup shape
    let rest ← fillShapes lookup rest
    return shape :: rest

end

def fillSlide (lookup : Lookup) (slide : Slide) : Except Failure Slide :=
  (fillShapes lookup slide.shapes).map fun shapes => { slide with shapes }

def fill (lookup : Lookup) (deck : Deck) : Except Failure Deck :=
  (deck.slides.mapM (fillSlide lookup)).map Deck.mk

end Deck
end Issuance
