import Issuance.Distinct
/-!
Placeholders: names in double braces inside a text.

A text falls apart in one way into placeholder tokens and other characters, from the left. What a
text names and what filling it in produces are both read off these segments.
-/

namespace Issuance
namespace Placeholder

/-- A character of a placeholder name: an ASCII letter, a digit or an underscore. -/
def isNameChar (c : Char) : Bool := c.isAlphanum || c = '_'

/-- The name in the token at the front of the input, with what follows the token. -/
def token? : List Char → Option (List Char × List Char)
  | '{' :: '{' :: rest =>
    match rest.takeWhile isNameChar, rest.dropWhile isNameChar with
    | first :: name, '}' :: '}' :: after => some (first :: name, after)
    | _, _ => none
  | _ => none

/-- A token takes characters away. -/
theorem length_of_token? {cs name rest : List Char} (found : token? cs = some (name, rest)) :
    rest.length < cs.length := by
  unfold token? at found
  split at found
  · next body =>
    split at found
    · next first tail after _ dropped =>
      obtain ⟨-, rfl⟩ := Prod.mk.inj (Option.some.inj found)
      have shorter := (List.dropWhile_suffix (l := body) isNameChar).length_le
      rw [dropped] at shorter
      simp only [List.length_cons] at shorter ⊢
      omega
    · exact absurd found (by simp)
  · exact absurd found (by simp)

/-- A token is two braces, a name, and two braces; what follows it is the rest of the input. -/
theorem eq_of_token? {cs name rest : List Char} (found : token? cs = some (name, rest)) :
    cs = '{' :: '{' :: (name ++ '}' :: '}' :: rest) := by
  unfold token? at found
  split at found
  · next body =>
    split at found
    · next first tail after taken dropped =>
      obtain ⟨rfl, rfl⟩ := Prod.mk.inj (Option.some.inj found)
      rw [← taken, ← dropped, List.takeWhile_append_dropWhile]
    · exact absurd found (by simp)
  · exact absurd found (by simp)

/-- A piece of a text: one character, or a token with its name. -/
inductive Segment
  | char (c : Char)
  | token (name : String)
deriving DecidableEq, Repr

/-- The segments of a text, tokens being taken as far to the left as they stand. -/
def segments (cs : List Char) : List Segment :=
  match _found : token? cs with
  | some (name, rest) => .token (String.ofList name) :: segments rest
  | none =>
    match cs with
    | [] => []
    | c :: rest => .char c :: segments rest
termination_by cs.length
decreasing_by
  · exact length_of_token? _found
  · simp

def Segment.source : Segment → List Char
  | .char c => [c]
  | .token name => '{' :: '{' :: name.toList ++ ['}', '}']

/-- The segments of a text, put one after the other, are the text. -/
theorem flatMap_source_segments (cs : List Char) :
    (segments cs).flatMap Segment.source = cs := by
  induction cs using segments.induct with
  | case1 cs name rest found ih =>
    rw [segments]
    split
    · next found' =>
      rw [found] at found'
      obtain ⟨rfl, rfl⟩ := Prod.mk.inj (Option.some.inj found')
      rw [eq_of_token? found]
      simp [Segment.source, ih]
    · next missing =>
      rw [found] at missing
      cases missing
  | case2 missing =>
    rw [segments]
    simp [token?]
  | case3 c rest missing ih =>
    rw [segments]
    split
    · next found =>
      rw [missing] at found
      cases found
    · simp [Segment.source, ih]

def Segment.name? : Segment → Option String
  | .char _ => none
  | .token name => some name

/-- The names in a text, in order and with repetitions. -/
def names (text : String) : List String :=
  (segments text.toList).filterMap Segment.name?

def occursIn (text : String) : Bool :=
  !(names text).isEmpty

/-- The distinct names in some texts, in order of their first occurrence. -/
def extract (texts : List String) : List String :=
  distinct (texts.flatMap names)

/-- The names listed so far, and behind them those of a text that are not among them. -/
def listFurther (listed : List String) (text : String) : List String :=
  (names text).foldl
    (fun listed name => if listed.contains name then listed else listed ++ [name]) listed

/-- The distinct names in some texts, of which an absent one names nothing. -/
def extractPresent (texts : List (Option String)) : List String :=
  extract (texts.map (·.getD ""))

section

variable {m : Type → Type} [Monad m]

/-- The characters of the segments, each token replaced by what is found for its name. Names are
looked up one after the other, each as often as it stands there. -/
def fillSegments (lookup : String → m String) : List Segment → m (List Char)
  | [] => return []
  | .char c :: rest => do
    let filled ← fillSegments lookup rest
    return c :: filled
  | .token name :: rest => do
    let value ← lookup name
    let filled ← fillSegments lookup rest
    return value.toList ++ filled

/-- The text with every placeholder replaced by what is found for it. What is found is not searched
again. -/
def fillWith (lookup : String → m String) (text : String) : m String :=
  String.ofList <$> fillSegments lookup (segments text.toList)

end

variable {ε : Type}

/-- The text with every placeholder replaced by its value. The first failing look-up ends the
work. -/
def fill (lookup : String → Except ε String) (text : String) : Except ε String :=
  fillWith lookup text

end Placeholder
end Issuance
