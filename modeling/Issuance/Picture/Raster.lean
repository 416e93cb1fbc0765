import Issuance.Picture.Colour
import Issuance.Picture.Symbol
/-!
Pictures as layers: a ground colour, and rectangles painted over it one after the other.

The colour of a pixel is that of the last layer that covers it. Text is recorded by the calls that
draw it and leaves no layer.
-/

namespace Issuance

inductive Paint
  | plain (colour : Colour)
  | symbol (modules : Nat) (colour : Colour)
deriving DecidableEq, Repr

/-- A rectangle with its paint. Its corner may lie outside the picture. -/
structure Layer where
  x : Int
  y : Int
  width : Nat
  height : Nat
  paint : Paint
deriving DecidableEq, Repr

/-- A picture. `isOpaque` tells one whose ground shows from one that shows nothing; `channels`
are those of its pixels. -/
structure Picture where
  width : Nat
  height : Nat
  ground : Colour
  isOpaque : Bool
  channels : Nat
  layers : List Layer
deriving DecidableEq, Repr

namespace Paint

/-- The module at a place along one side, when a side of `length` pixels shows the modules and a
margin of one module around them. -/
def moduleAt (modules length place : Nat) : Int :=
  ((2 * place + 1) * (modules + 2) / (2 * length) : Nat) - 1

/-- Whether a module of the finder pattern in the first corner is dark: an outer ring and an
inner square. -/
def finderDark (column row : Nat) : Bool :=
  let ring := column = 0 || column = 6 || row = 0 || row = 6
  let core := 2 ≤ column && column ≤ 4 && 2 ≤ row && row ≤ 4
  ring || core

/-- The colour at a place inside a rectangle. Of a symbol, the margin and the first finder pattern
are known; the modules that carry data are left light. -/
def colourAt (width height x y : Nat) : Paint → Colour
  | .plain colour => colour
  | .symbol modules colour =>
    let column := moduleAt modules width x
    let row := moduleAt modules height y
    if 0 ≤ column && column < 7 && 0 ≤ row && row < 7 && finderDark column.toNat row.toNat
    then colour else .white

end Paint

namespace Layer

def covers (layer : Layer) (x y : Int) : Bool :=
  layer.x ≤ x && x < layer.x + layer.width && layer.y ≤ y && y < layer.y + layer.height

/-- The colour that the rectangle gives to a pixel it covers. -/
def colourAt (layer : Layer) (x y : Int) : Colour :=
  layer.paint.colourAt layer.width layer.height (x - layer.x).toNat (y - layer.y).toNat

end Layer

namespace Picture

def pixel (picture : Picture) (x y : Int) : Colour :=
  match picture.layers.reverse.find? (·.covers x y) with
  | some layer => layer.colourAt x y
  | none => picture.ground

def paint (layer : Layer) (picture : Picture) : Picture :=
  { picture with layers := picture.layers ++ [layer] }

end Picture
end Issuance
