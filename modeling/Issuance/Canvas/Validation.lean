import Issuance.Canvas.Basic
import Issuance.Json.Reader
/-!
Reading canvas descriptions from structured data, from JSON texts and from bytes.

A description is an object with a size, a background and elements, all of which may be left out.
The first thing that is not as it should be is reported: size, background, elements, and then the
elements in order. A text with an integer of too many digits is not even read.
-/

namespace Issuance
namespace Canvas

inductive ElementFault
  | notObject
  | notNumber (key : String)
  | notPositive (key : String)
  | notText (key : String)
  | badSize
  | badAlign (word : String)
  | badKind (shown : String)
deriving DecidableEq, Repr

inductive Fault
  | notUtf8
  | notJson
  | overlong (digits : Nat)
  | notObject
  | badSide (label : String)
  | badBackground
  | badElements
  | element (index : Nat) (fault : ElementFault)
deriving DecidableEq, Repr

def ElementFault.message : ElementFault → String
  | .notObject => " must be an object"
  | .notNumber key => ": " ++ Text.quoted key ++ " must be a number"
  | .notPositive key => ": " ++ Text.quoted key ++ " must be positive"
  | .notText key => ": " ++ Text.quoted key ++ " must be a non-empty string"
  | .badSize => ": 'size' must be a positive integer"
  | .badAlign word => ": unsupported alignment " ++ Text.quoted word
  | .badKind shown => ": unsupported type " ++ shown

def Fault.message : Fault → String
  | .notUtf8 => "Canvas specification is not UTF-8 JSON"
  | .notJson => "Canvas specification is not valid JSON"
  | .overlong digits => Text.overlongMessage digits
  | .notObject => "Canvas specification must be an object"
  | .badSide label => "Canvas " ++ label ++ " must be a positive integer"
  | .badBackground => "Canvas background must be a string reference"
  | .badElements => "Canvas elements must be a list"
  | .element index fault => "Element " ++ toString index ++ fault.message

def readNumber (raw : Json) (key : String) : Except ElementFault Number :=
  match raw.getOrNull key with
  | .number n => .ok n
  | _ => .error (.notNumber key)

def readPositive (raw : Json) (key : String) : Except ElementFault Number := do
  let n ← readNumber raw key
  if n.isNonpositive then .error (.notPositive key) else .ok n

/-- The text under a key, or the default if the key is missing. -/
def readText (raw : Json) (key default : String) : Except ElementFault String :=
  match raw.get? key with
  | none => .ok default
  | some (.str s) => .ok s
  | some _ => .error (.notText key)

/-- The text under a key, which must be there and not be empty. -/
def readRequiredText (raw : Json) (key : String) : Except ElementFault String :=
  match raw.get? key with
  | some (.str s) => if s.isEmpty then .error (.notText key) else .ok s
  | _ => .error (.notText key)

def positive? : Json → Option Nat
  | .number (.int n) => if 0 < n then some n.toNat else none
  | _ => none

/-- The alignment of a text: any value whose text is the word for one, in any case. -/
def readAlign (raw : Json) : Except ElementFault Align :=
  let word := Text.lower ((raw.get? "align").getD (.str "left")).display
  match Align.ofWord? word with
  | some align => .ok align
  | none => .error (.badAlign word)

/-- An element. The position is read first, then what the kind of element asks for; an unknown
kind is noticed after width and height. -/
def readElement (raw : Json) : Except ElementFault Element := do
  let .obj _ := raw | .error .notObject
  let x ← readNumber raw "x"
  let y ← readNumber raw "y"
  match raw.getOrNull "type" with
  | .str "text" =>
    let some size := positive? ((raw.get? "size").getD (.int defaults.fontSize))
      | .error .badSize
    let align ← readAlign raw
    let content ← readText raw "content" ""
    let font ← readText raw "font" defaults.font
    let color ← readText raw "color" defaults.textColor
    return .text ⟨x, y, content, font, size, color, align⟩
  | kind =>
    let width ← readPositive raw "width"
    let height ← readPositive raw "height"
    match kind with
    | .str "image" =>
      let src ← readRequiredText raw "src"
      return .image ⟨x, y, width, height, src⟩
    | .str "qrCode" =>
      let content ← readRequiredText raw "content"
      let color ← readText raw "color" defaults.textColor
      return .symbol ⟨x, y, width, height, content, color⟩
    | _ => .error (.badKind kind.shown)

def readElements (index : Nat) : List Json → Except Fault (List Element)
  | [] => .ok []
  | raw :: rest => do
    let element ← (readElement raw).mapError (.element index)
    let elements ← readElements (index + 1) rest
    return element :: elements

def readSide (raw : Json) (label : String) (default : Nat) : Except Fault Nat :=
  match positive? ((raw.get? label).getD (.int default)) with
  | some side => .ok side
  | none => .error (.badSide label)

/-- The background, of which an empty reference is none. -/
def readBackground (raw : Json) : Except Fault (Option String) :=
  match raw.getOrNull "background" with
  | .null => .ok none
  | .str s => .ok (if s.isEmpty then none else some s)
  | _ => .error .badBackground

/-- The background colour: the text of any value, under either of two keys. -/
def readBackgroundColor (raw : Json) : String :=
  match raw.get? "backgroundColor", raw.get? "background_color" with
  | some color, _ => color.display
  | none, some color => color.display
  | none, none => defaults.backgroundColor

namespace Spec

def ofObject (raw : Json) : Except Fault Spec := do
  let .obj _ := raw | .error .notObject
  let width ← readSide raw "width" defaults.width
  let height ← readSide raw "height" defaults.height
  let background ← readBackground raw
  let .arr items := (raw.get? "elements").getD (.arr []) | .error .badElements
  let elements ← readElements 0 items
  return ⟨width, height, readBackgroundColor raw, background, elements⟩

def ofText (text : String) : Except Fault Spec :=
  match Json.read text with
  | .ok raw => ofObject raw
  | .error .malformed => .error .notJson
  | .error (.overlong digits) => .error (.overlong digits)

/-- The description that a value gives: a text is read as JSON. -/
def ofJson : Json → Except Fault Spec
  | .str text => ofText text
  | raw => ofObject raw

def ofBytes (bytes : List UInt8) : Except Fault Spec :=
  match String.fromUTF8? (ByteArray.mk bytes.toArray) with
  | some text => ofText text
  | none => .error .notUtf8

end Spec
end Canvas
end Issuance
