/-!
Slide decks: slides with shapes, shapes with paragraphs, paragraphs with runs of text.

Text stands in boxes, in other shapes, and in the cells of tables; shapes may be grouped to any
depth. Line breaks and fields stand between the runs of a paragraph and are no runs themselves.
-/

namespace Issuance
namespace Deck

inductive Inline
  | run (text : String) (bold : Bool)
  | lineBreak
  | field (text : String)
deriving DecidableEq, Repr

abbrev Paragraph := List Inline

inductive Shape
  | textBox (paragraphs : List Paragraph)
  | rectangle (paragraphs : List Paragraph)
  | table (rows : List (List (List Paragraph)))
  | group (shapes : List Shape)
  | picture
  | connector
deriving Inhabited, Repr

/-- A slide. Its notes are not part of what it shows. -/
structure Slide where
  shapes : List Shape
  notes : Option String
deriving Repr

end Deck

structure Deck where
  slides : List Deck.Slide
deriving Repr

namespace Deck

def Inline.runText? : Inline → Option String
  | .run text _ => some text
  | _ => none

def runTexts (p : Paragraph) : List String := p.filterMap Inline.runText?

/-- The text that the runs of a paragraph make together. -/
def text (p : Paragraph) : String := String.join (runTexts p)

mutual

def Shape.paragraphs : Shape → List Paragraph
  | .textBox ps => ps
  | .rectangle ps => ps
  | .table rows => rows.flatMap fun row => row.flatMap id
  | .group shapes => paragraphsOf shapes
  | .picture => []
  | .connector => []

def paragraphsOf : List Shape → List Paragraph
  | [] => []
  | shape :: rest => shape.paragraphs ++ paragraphsOf rest

end

/-- The paragraphs of a deck, slide by slide. -/
def paragraphs (deck : Deck) : List Paragraph :=
  deck.slides.flatMap fun slide => paragraphsOf slide.shapes

end Deck
end Issuance
