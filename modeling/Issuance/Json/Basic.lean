import Issuance.Assoc
import Issuance.Decimal.Number
/-!
Structured data: JSON values with their members in order, and the text that messages show for
them.
-/

namespace Issuance

/-- A JSON value. Integers and doubles are told apart, and members keep their order. -/
inductive Json
  | null
  | bool (b : Bool)
  | number (n : Number)
  | str (s : String)
  | arr (items : List Json)
  | obj (members : List (String × Json))
deriving Repr, Inhabited

namespace Json

def int (n : Int) : Json := .number (.int n)

def optStr : Option String → Json
  | some s => .str s
  | none => .null

/-- The members of an object; other values have none. -/
def members : Json → List (String × Json)
  | .obj ms => ms
  | _ => []

def get? (json : Json) (key : String) : Option Json :=
  Assoc.get? key json.members

/-- The value under a key of an object, or null. -/
def getOrNull (json : Json) (key : String) : Json :=
  (json.get? key).getD .null

def asStr? : Json → Option String
  | .str s => some s
  | _ => none

def asInt? : Json → Option Int
  | .number (.int n) => some n
  | _ => none

def asArr? : Json → Option (List Json)
  | .arr items => some items
  | _ => none

/-- Null, false, zero and everything empty are blank. -/
def isEmpty : Json → Bool
  | .null => true
  | .bool b => !b
  | .number n => n.isZero
  | .str s => s.isEmpty
  | .arr items => items.isEmpty
  | .obj ms => ms.isEmpty

mutual

/-- The text of a value inside another one or inside a message: texts are quoted. -/
def shown : Json → String
  | .null => "None"
  | .bool true => "True"
  | .bool false => "False"
  | .number n => n.text
  | .str s => Text.quoted s
  | .arr items => "[" ++ ", ".intercalate (shownItems items) ++ "]"
  | .obj ms => "\x7b" ++ ", ".intercalate (shownMembers ms) ++ "\x7d"

def shownItems : List Json → List String
  | [] => []
  | item :: items => item.shown :: shownItems items

def shownMembers : List (String × Json) → List String
  | [] => []
  | (key, value) :: ms => (Text.quoted key ++ ": " ++ value.shown) :: shownMembers ms

end

/-- The text of a value on its own: a text is itself. -/
def display : Json → String
  | .str s => s
  | value => value.shown

end Json
end Issuance
