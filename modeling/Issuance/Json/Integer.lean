import Issuance.Json.Basic
/-!
Reading any value as an integer: numbers are cut off at the point, truth values count as one and
zero, and texts are read.
-/

namespace Issuance
namespace Json

/-- Why a value is not read as an integer. -/
inductive IntegerFault
  | unusable
  | unbounded
deriving DecidableEq, Repr

def toInteger : Json → Except IntegerFault Int
  | .number n =>
    match n.truncate with
    | .ok i => .ok i
    | .error .undefined => .error .unusable
    | .error .unbounded => .error .unbounded
  | .bool b => .ok (if b then 1 else 0)
  | .str s =>
    match Text.integer? s with
    | some i => .ok i
    | none => .error .unusable
  | _ => .error .unusable

end Json
end Issuance
