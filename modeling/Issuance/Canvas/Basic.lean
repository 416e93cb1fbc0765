import Issuance.Json.Basic
import Issuance.Placeholder
/-!
Canvas descriptions: a background and a list of elements to paint over it, in order.
-/

namespace Issuance
namespace Canvas

/-- Where a text stands relative to its position. -/
inductive Align
  | left
  | center
  | right
deriving DecidableEq, Repr

namespace Align

def word : Align → String
  | .left => "left"
  | .center => "center"
  | .right => "right"

def ofWord? (s : String) : Option Align :=
  [left, center, right].find? (·.word == s)

end Align

structure TextElement where
  x : Number
  y : Number
  content : String
  font : String
  size : Nat
  color : String
  align : Align
deriving DecidableEq, Repr

/-- A picture from a store, scaled into a box. -/
structure ImageElement where
  x : Number
  y : Number
  width : Number
  height : Number
  src : String
deriving DecidableEq, Repr

/-- A square code symbol, scaled into a box. -/
structure SymbolElement where
  x : Number
  y : Number
  width : Number
  height : Number
  content : String
  color : String
deriving DecidableEq, Repr

inductive Element
  | text (e : TextElement)
  | image (e : ImageElement)
  | symbol (e : SymbolElement)
deriving DecidableEq, Repr

namespace Element

def kind : Element → String
  | .text _ => "text"
  | .image _ => "image"
  | .symbol _ => "qrCode"

/-- The text in which an element may name fields. -/
def content : Element → String
  | .text e => e.content
  | .image _ => ""
  | .symbol e => e.content

/-- An element as structured data, every member given. -/
def toJson : Element → Json
  | .text e => .obj [("x", .number e.x), ("y", .number e.y), ("content", .str e.content),
      ("font", .str e.font), ("size", .int e.size), ("color", .str e.color),
      ("align", .str e.align.word), ("type", .str "text")]
  | .image e => .obj [("x", .number e.x), ("y", .number e.y), ("width", .number e.width),
      ("height", .number e.height), ("src", .str e.src), ("type", .str "image")]
  | .symbol e => .obj [("x", .number e.x), ("y", .number e.y), ("width", .number e.width),
      ("height", .number e.height), ("content", .str e.content), ("color", .str e.color),
      ("type", .str "qrCode")]

end Element

/-- A canvas description. The elements are painted in list order. -/
structure Spec where
  width : Nat
  height : Nat
  backgroundColor : String
  background : Option String
  elements : List Element
deriving DecidableEq, Repr

structure Defaults where
  width : Nat := 1200
  height : Nat := 800
  backgroundColor : String := "#ffffff"
  textColor : String := "#000000"
  font : String := "DejaVuSans"
  fontSize : Nat := 24

def defaults : Defaults := {}

namespace Spec

def toJson (spec : Spec) : Json :=
  .obj [("width", .int spec.width), ("height", .int spec.height),
    ("backgroundColor", .str spec.backgroundColor), ("background", .optStr spec.background),
    ("elements", .arr (spec.elements.map Element.toJson))]

/-- The distinct fields that texts and symbols name, in order of their first occurrence. -/
def referencedFields (spec : Spec) : List String :=
  spec.elements.foldl (fun listed e => Placeholder.listFurther listed e.content) []

/-- Puts the reference in place of an uploaded name. -/
def Element.withAssets (assets : List (String × String)) : Element → Element
  | .image e => .image { e with src := (Assoc.get? e.src assets).getD e.src }
  | e => e

/-- The description with uploaded names replaced by their references, each only once. -/
def withAssets (assets : List (String × String)) (spec : Spec) : Spec :=
  { spec with
    background := spec.background.map fun name => (Assoc.get? name assets).getD name
    elements := spec.elements.map (Element.withAssets assets) }

end Spec
end Canvas
end Issuance
