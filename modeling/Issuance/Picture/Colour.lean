import Issuance.Json.Reader
import Issuance.Picture.ColourNames
/-!
Colours and the texts that denote them.

A colour is a name, three, four, six or eight hexadecimal digits after a hash sign, or a list of
three or four components. Case does not matter. An opacity may be given and is not kept, since
drawings are opaque in the end.
-/

namespace Issuance

structure Colour where
  red : Nat
  green : Nat
  blue : Nat
deriving DecidableEq, Repr, Inhabited

namespace Colour

def white : Colour := ⟨255, 255, 255⟩

def ofCode (code : Nat) : Colour :=
  ⟨code / 0x10000 % 0x100, code / 0x100 % 0x100, code % 0x100⟩

/-- The colour of hexadecimal digits, one or two to a component. -/
def ofHex? (cs : List Char) : Option Colour := do
  match ← cs.mapM Json.hexValue? with
  | [r, g, b] | [r, g, b, _] => some ⟨r * 17, g * 17, b * 17⟩
  | [r, r', g, g', b, b'] | [r, r', g, g', b, b', _, _] =>
    some ⟨r * 16 + r', g * 16 + g', b * 16 + b'⟩
  | _ => none

/-- A component: digits of any script between blanks. -/
def component? (cs : List Char) : Option Nat :=
  match Text.stripChars Text.isBlank cs with
  | [] => none
  | digits => digits.foldlM (fun n c => (Text.digitValue? c).map (10 * n + ·)) 0

def percentage? (cs : List Char) : Option Nat := do
  let '%' :: digits := (Text.stripChars Text.isBlank cs).reverse | none
  let last ← digits.head?
  if Text.isBlank last then none
  else
    let hundredths ← component? digits.reverse
    some ((hundredths * 255 * 2 + 100) / 200)

/-- The components between the brackets that follow a word. -/
def arguments? (word : String) (cs : List Char) : Option (List (List Char)) := do
  let rest ← Json.afterWord? (word ++ "(") cs
  let ')' :: inner := rest.reverse | none
  some (Text.splitChars (· = ',') inner.reverse)

def limited (r g b : Nat) : Colour := ⟨min r 255, min g 255, min b 255⟩

def ofComponents? (cs : List Char) : Option Colour :=
  let three : Option Colour := do
    let parts ← arguments? "rgb" cs
    match parts.mapM component?, parts.mapM percentage? with
    | some [r, g, b], _ => some (limited r g b)
    | _, some [r, g, b] => some (limited r g b)
    | _, _ => none
  let four : Option Colour := do
    match ← (← arguments? "rgba" cs).mapM component? with
    | [r, g, b, _] => some (limited r g b)
    | _ => none
  three.or four

def maxTextLength : Nat := 100

inductive Fault
  | tooLong
  | unknown (text : String)
deriving DecidableEq, Repr

def Fault.message : Fault → String
  | .tooLong => "color specifier is too long"
  | .unknown text => "unknown color specifier: " ++ Text.quoted text

/-- The colour that a text denotes. A line feed may end a text that is not a name. -/
def ofText (text : String) : Except Fault Colour :=
  if maxTextLength < text.length then .error .tooLong
  else
    let word := Text.lower text
    let cs := match word.toList.reverse with
      | '\n' :: rest => rest.reverse
      | _ => word.toList
    let hex := match cs with
      | '#' :: digits => ofHex? digits
      | _ => none
    match ((colourNames.lookup word).map ofCode).or (hex.or (ofComponents? cs)) with
    | some colour => .ok colour
    | none => .error (.unknown word)

end Colour
end Issuance
