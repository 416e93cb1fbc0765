import Issuance.Error
/-!
Field values, and how a placeholder finds its value.

A template maps placeholders to field keys. An unmapped placeholder of a canvas stands for the
field of its own name; one of a deck has no value.
-/

namespace Issuance

abbrev FieldValues := List (String × String)

/-- The field key of each mapped placeholder; a key that is missing or empty maps to nothing. -/
abbrev Mapping := List (String × Option String)

namespace Mapping

/-- The field key that a placeholder is mapped to, if it is not empty. -/
def target? (mapping : Mapping) (placeholder : String) : Option String :=
  match Assoc.get? placeholder mapping with
  | some (some key) => if key.isEmpty then none else some key
  | _ => none

def missing (mapping : Mapping) (placeholders : List String) : List String :=
  placeholders.filter fun p => (mapping.target? p).isNone

end Mapping

def FieldValues.find (values : FieldValues) (key : String) : Except Error String :=
  match Assoc.get? key values with
  | some value => .ok value
  | none => .error (.missingFieldValue key)

/-- The value of a placeholder through a mapping. With `direct`, an unmapped placeholder stands
for the field of its name. -/
def Mapping.find (mapping : Mapping) (values : FieldValues) (direct : Bool)
    (placeholder : String) : Except Error String :=
  match mapping.target? placeholder with
  | some key => values.find key
  | none =>
    if direct && !placeholder.isEmpty then values.find placeholder
    else .error (.missingFieldValue placeholder)

end Issuance
