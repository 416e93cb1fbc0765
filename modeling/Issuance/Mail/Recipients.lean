import Issuance.Distinct
import Issuance.Json.Basic
import Issuance.Text.Case
/-!
Recipients: the addresses that are left of a text or a list.

Blanks around an address are taken away, what has not the form of an address is dropped, and of
addresses that differ in case only the first stays.
-/

namespace Issuance
namespace Mail

/-- Who a message is for, before it is cleaned up. -/
inductive Recipients
  | nobody
  | text (s : String)
  | list (items : List String)
deriving DecidableEq, Repr

namespace Recipients

/-- The recipients that a value gives: null, a text, or a list of anything. -/
def ofJson : Json → Recipients
  | .str s => .text s
  | .arr items => .list (items.map Json.display)
  | _ => .nobody

def ofText? : Option String → Recipients
  | some s => .text s
  | none => .nobody

/-- What may be an address: the pieces of a text between commas and semicolons, or the items of a
list. -/
def tokens : Recipients → List String
  | .nobody => []
  | .text s => Text.splitAt (fun c => c = ';' || c = ',') s
  | .list items => items

end Recipients

/-- The form of an address: no blank, one at-sign with something in front of it, and behind it a
point with something on both sides. -/
def isAddress (s : String) : Bool :=
  let cs := s.toList
  let user := cs.takeWhile (· ≠ '@')
  let domain := (cs.drop user.length).drop 1
  !cs.any Text.isBlank && !user.isEmpty && user.length < cs.length && !domain.contains '@'
    && ((domain.drop 1).dropLast).contains '.'

def addresses (recipients : Recipients) : List String :=
  distinctBy Text.lower ((recipients.tokens.map Text.trim).filter isAddress)

end Mail
end Issuance
