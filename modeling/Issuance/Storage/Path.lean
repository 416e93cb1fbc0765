import Issuance.Storage.Fault
import Issuance.Text.Blank
/-!
Keys of stored files and the places they lead to.

A key is a path below the root of a store, perhaps with empty components, `.` and `..` in it. Its
normal form is computed by its components alone. Only a key whose normal form lies strictly below
the root leads anywhere.
-/

namespace Issuance
namespace Storage

/-- A place in a tree by the names on the way to it. -/
abbrev Path := List String

/-- The place that is reached from another one by a component of a key. -/
def walk (place : Path) (component : String) : Path :=
  if component = "" || component = "." then place
  else if component = ".." then place.dropLast
  else place ++ [component]

/-- A name that stands for itself on a way: not empty, neither `.` nor `..`, and without a
slash. -/
structure IsPlain (name : String) : Prop where
  nonempty : name ≠ ""
  notHere : name ≠ "."
  notUp : name ≠ ".."
  noSlash : '/' ∉ name.toList

/-- Walking keeps to plain names. -/
theorem isPlain_of_mem_walk {place : Path} {component name : String}
    (plain : ∀ n ∈ place, IsPlain n) (noSlash : '/' ∉ component.toList)
    (member : name ∈ walk place component) : IsPlain name := by
  unfold walk at member
  split at member
  · exact plain name member
  · next notHere =>
    split at member
    · exact plain name (List.dropLast_subset place member)
    · next notUp =>
      simp only [Bool.or_eq_true, decide_eq_true_eq, not_or] at notHere
      rcases List.mem_append.1 member with earlier | last
      · exact plain name earlier
      · rw [List.mem_singleton.1 last]
        exact ⟨notHere.1, notHere.2, notUp, noSlash⟩

def components (key : String) : List String :=
  Text.splitAt (· = '/') key

/-- No component holds a slash. -/
theorem slash_not_mem_of_mem_components {key component : String}
    (member : component ∈ components key) : '/' ∉ component.toList := by
  intro inside
  obtain ⟨piece, isPiece, rfl⟩ := List.mem_map.1 member
  rw [String.toList_ofList] at inside
  simpa using Text.not_isCut_of_mem_splitChars isPiece inside

/-- The place that a key leads to from a root. A key that begins with a slash leaves the root
behind. -/
def destination (root : Path) (key : String) : Path :=
  (components key).foldl walk (if key.toList.head? = some '/' then [] else root)

/-- Every name on the way to a destination is plain if those of the root are. -/
theorem isPlain_of_mem_destination {root : Path} {key name : String}
    (plain : ∀ n ∈ root, IsPlain n) (member : name ∈ destination root key) : IsPlain name := by
  have walked : ∀ (parts : List String), (∀ part ∈ parts, '/' ∉ part.toList) →
      ∀ (place : Path), (∀ n ∈ place, IsPlain n) → ∀ n ∈ parts.foldl walk place, IsPlain n := by
    intro parts
    induction parts with
    | nil => exact fun _ _ plain => plain
    | cons part rest ih =>
      intro noSlash place plain
      refine ih (fun p h => noSlash p (List.mem_cons_of_mem _ h)) (walk place part) ?_
      exact fun n h => isPlain_of_mem_walk plain (noSlash part List.mem_cons_self) h
  refine walked (components key) (fun _ h => slash_not_mem_of_mem_components h) _ ?_ name member
  split
  · simp
  · exact plain

/-- What follows the root in a place strictly below it. -/
def below? (root place : Path) : Option Path :=
  if root.isPrefixOf place && root.length < place.length then some (place.drop root.length)
  else none

/-- The path below the root that a key leads to. -/
def resolve (root : Path) (key : String) : Except IoFault Path :=
  match below? root (destination root key) with
  | some path => .ok path
  | none => .error (.escapingKey key)

/-- The key of a path in normal form. -/
def keyOf (path : Path) : String := "/".intercalate path

/-- A reference to a stored file: the name of its store and its key. -/
structure Reference where
  store : String
  key : String
deriving DecidableEq, Repr

namespace Reference

def text (ref : Reference) : String := ref.store ++ ":" ++ ref.key

/-- The reference in a text: the first colon parts the store from the key, and neither is
empty. -/
def ofText (text : String) : Except IoFault Reference :=
  let cs := text.toList
  let store := cs.takeWhile (· ≠ ':')
  let key := (cs.drop store.length).drop 1
  if store.isEmpty || key.isEmpty then .error (.malformedReference (Text.quoted text))
  else .ok ⟨String.ofList store, String.ofList key⟩

end Reference
end Storage
end Issuance
