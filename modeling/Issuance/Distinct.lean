/-!
The first occurrences in a list, told apart by a key.
-/

namespace Issuance

variable {α β : Type} [DecidableEq β]

/-- The elements whose key is not among `seen` and not the key of an earlier element. -/
def distinctBeyond (key : α → β) (seen : List β) : List α → List α
  | [] => []
  | a :: rest =>
    if key a ∈ seen then distinctBeyond key seen rest
    else a :: distinctBeyond key (key a :: seen) rest

/-- The first element of each key, in order. -/
def distinctBy (key : α → β) (xs : List α) : List α :=
  distinctBeyond key [] xs

/-- The first occurrence of each element, in order. -/
def distinct (xs : List β) : List β :=
  distinctBy id xs

end Issuance
