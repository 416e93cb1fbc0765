import Issuance.Json.Basic
/-!
Reading JSON texts.

The grammar is that of JSON with `NaN`, `Infinity` and `-Infinity` as numbers. White space is a
space, a tab, a line feed or a carriage return. Control characters do not stand in texts. Of
equal keys the last value counts, in the place of the first. A number with a fraction or an
exponent is a double, any other an integer.

Every reading function returns what it has read with the rest of the input, or the first thing that
keeps it from reading on. The nesting of values is bounded by a fuel that a wrapper takes from the
length of the input.
-/

namespace Issuance
namespace Json

/-- Why a text is not read: it does not follow the grammar, or an integer in it has too many
digits. -/
inductive ReadingFault
  | malformed
  | overlong (digits : Nat)
deriving DecidableEq, Repr

abbrev Reading (α : Type) := Except ReadingFault (α × List Char)

/-- An integer is written with at most this many digits. -/
def maxIntegerDigits : Nat := Text.maxDigits

def isSpace (c : Char) : Bool := c = ' ' || c = '\t' || c = '\n' || c = '\r'

def skipSpace (cs : List Char) : List Char := cs.dropWhile isSpace

def hexValue? (c : Char) : Option Nat :=
  if c.isDigit then some (c.toNat - '0'.toNat)
  else if 'a' ≤ c && c ≤ 'f' then some (c.toNat - 'a'.toNat + 10)
  else if 'A' ≤ c && c ≤ 'F' then some (c.toNat - 'A'.toNat + 10)
  else none

def hexUnit? : List Char → Option (Nat × List Char)
  | a :: b :: c :: d :: rest => do
    let w ← hexValue? a
    let x ← hexValue? b
    let y ← hexValue? c
    let z ← hexValue? d
    some (((w * 16 + x) * 16 + y) * 16 + z, rest)
  | _ => none

/-- The character of a unit, which a second escaped unit may complete. A lone half is replaced. -/
def unitChar (unit : Nat) (rest : List Char) : Char × List Char :=
  if 0xD800 ≤ unit && unit < 0xDC00 then
    match rest with
    | '\\' :: 'u' :: more =>
      match hexUnit? more with
      | some (low, after) =>
        if 0xDC00 ≤ low && low < 0xE000 then
          (Char.ofNat (0x10000 + (unit - 0xD800) * 0x400 + (low - 0xDC00)), after)
        else ('\uFFFD', rest)
      | none => ('\uFFFD', rest)
    | _ => ('\uFFFD', rest)
  else if 0xDC00 ≤ unit && unit < 0xE000 then ('\uFFFD', rest)
  else (Char.ofNat unit, rest)

def simpleEscape? (c : Char) : Option Char :=
  match c with
  | '"' => some '"'
  | '\\' => some '\\'
  | '/' => some '/'
  | 'b' => some '\x08'
  | 'f' => some '\x0c'
  | 'n' => some '\n'
  | 'r' => some '\r'
  | 't' => some '\t'
  | _ => none

/-- The characters of a text up to its closing quote, those read so far in reverse. -/
def readText : Nat → List Char → List Char → Reading String
  | 0, _, _ => .error .malformed
  | _ + 1, _, [] => .error .malformed
  | fuel + 1, done, c :: rest =>
    if c = '"' then .ok (String.ofList done.reverse, rest)
    else if c = '\\' then
      match rest with
      | 'u' :: more =>
        match hexUnit? more with
        | some (unit, after) =>
          let (decoded, remaining) := unitChar unit after
          readText fuel (decoded :: done) remaining
        | none => .error .malformed
      | mark :: more =>
        match simpleEscape? mark with
        | some decoded => readText fuel (decoded :: done) more
        | none => .error .malformed
      | [] => .error .malformed
    else if c.toNat < 0x20 then .error .malformed
    else readText fuel (c :: done) rest

/-- A fraction: a point and at least one digit. -/
def readFraction (cs : List Char) : List Char × List Char :=
  match cs with
  | '.' :: d :: rest =>
    if d.isDigit then ((d :: rest).takeWhile Char.isDigit, (d :: rest).dropWhile Char.isDigit)
    else ([], cs)
  | _ => ([], cs)

/-- An exponent: a mark, perhaps a sign, and at least one digit. -/
def readExponent (cs : List Char) : Option Int × List Char :=
  match cs with
  | mark :: rest =>
    if mark = 'e' || mark = 'E' then
      let (negative, digits) := Text.splitSign rest
      match digits.takeWhile Char.isDigit with
      | [] => (none, cs)
      | ds =>
        let n := (Text.natural? ds).getD 0
        (some (if negative then -(n : Int) else n), digits.dropWhile Char.isDigit)
    else (none, cs)
  | [] => (none, cs)

/-- A number after its sign: digits without a zero in front, a fraction and an exponent. -/
def readNumber (negative : Bool) (cs : List Char) : Reading Number :=
  let (whole, afterWhole) := match cs with
    | '0' :: rest => (['0'], rest)
    | _ => (cs.takeWhile Char.isDigit, cs.dropWhile Char.isDigit)
  if whole.isEmpty then .error .malformed
  else
    let (fraction, afterFraction) := readFraction afterWhole
    let (exponent?, rest) := readExponent afterFraction
    if fraction.isEmpty && exponent?.isNone then
      if maxIntegerDigits < whole.length then .error (.overlong whole.length)
      else
        let n := (Text.natural? whole).getD 0
        .ok (.int (if negative then -(n : Int) else n), rest)
    else
      let significand := (Text.natural? (whole ++ fraction)).getD 0
      let exponent := exponent?.getD 0 - fraction.length
      .ok (.double (Double.ofDecimal negative significand exponent), rest)

/-- What follows `word`, if the input begins with it. -/
def afterWord? (word : String) (cs : List Char) : Option (List Char) :=
  if word.toList.isPrefixOf cs then some (cs.drop word.length) else none

/-- The words of the grammar with their values. -/
def wordValues : List (String × Json) :=
  [("null", .null), ("true", .bool true), ("false", .bool false),
    ("NaN", .number (.double .nan)), ("Infinity", .number (.double (.infinite false))),
    ("-Infinity", .number (.double (.infinite true)))]

def readScalar (cs : List Char) : Reading Json :=
  match wordValues.findSome? fun (word, value) => (afterWord? word cs).map (value, ·) with
  | some result => .ok result
  | none =>
    let (negative, digits) := match cs with
      | '-' :: rest => (true, rest)
      | _ => (false, cs)
    (readNumber negative digits).map fun (n, rest) => (.number n, rest)

mutual

/-- A value; the input has no white space in front. -/
def readValue : Nat → List Char → Reading Json
  | 0, _ => .error .malformed
  | fuel + 1, cs =>
    match cs with
    | '"' :: rest => (readText (rest.length + 1) [] rest).map fun (s, after) => (.str s, after)
    | '[' :: rest =>
      match skipSpace rest with
      | ']' :: after => .ok (.arr [], after)
      | items => readItems fuel [] items
    | '\x7b' :: rest =>
      match skipSpace rest with
      | '\x7d' :: after => .ok (.obj [], after)
      | members => readMembers fuel [] members
    | _ => readScalar cs

/-- The items of a list up to its closing bracket, those read so far in reverse. -/
def readItems : Nat → List Json → List Char → Reading Json
  | 0, _, _ => .error .malformed
  | fuel + 1, done, cs =>
    match readValue fuel cs with
    | .error fault => .error fault
    | .ok (item, rest) =>
      match skipSpace rest with
      | ']' :: after => .ok (.arr (item :: done).reverse, after)
      | ',' :: after => readItems fuel (item :: done) (skipSpace after)
      | _ => .error .malformed

/-- The members of an object up to its closing brace, after those read so far. -/
def readMembers : Nat → List (String × Json) → List Char → Reading Json
  | 0, _, _ => .error .malformed
  | fuel + 1, done, cs =>
    match cs with
    | '"' :: afterQuote =>
      match readText (afterQuote.length + 1) [] afterQuote with
      | .error fault => .error fault
      | .ok (key, afterKey) =>
        match skipSpace afterKey with
        | ':' :: afterColon =>
          match readValue fuel (skipSpace afterColon) with
          | .error fault => .error fault
          | .ok (value, rest) =>
            let members := Assoc.put key value done
            match skipSpace rest with
            | '\x7d' :: after => .ok (.obj members, after)
            | ',' :: after => readMembers fuel members (skipSpace after)
            | _ => .error .malformed
        | _ => .error .malformed
    | _ => .error .malformed

end

/-- The value of a whole text, with white space around it. -/
def read (text : String) : Except ReadingFault Json :=
  let cs := text.toList
  match readValue (cs.length + 1) (skipSpace cs) with
  | .error fault => .error fault
  | .ok (value, rest) => if (skipSpace rest).isEmpty then .ok value else .error .malformed

/-- The value of a text, if there is one, whatever keeps it from being read. -/
def parse (text : String) : Option Json := (read text).toOption

end Json
end Issuance
