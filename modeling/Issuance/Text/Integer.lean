import Issuance.Text.Blank
import Issuance.Text.Quoted
/-!
Integers as texts: padded writing, and the reading of a whole text as an integer.

A readable integer may stand between blanks and carry a sign; its digits are decimal digits of
any script, of which there is a limited number, and a single underscore may part two of them.
-/

namespace Issuance
namespace Text

/-- The zeros of the scripts that have decimal digits; the other nine digits follow each. -/
def digitZeros : List Nat := [
    0x30, 0x660, 0x6F0, 0x7C0, 0x966, 0x9E6, 0xA66, 0xAE6, 0xB66, 0xBE6, 0xC66, 0xCE6, 0xD66,
    0xDE6, 0xE50, 0xED0, 0xF20, 0x1040, 0x1090, 0x17E0, 0x1810, 0x1946, 0x19D0, 0x1A80, 0x1A90,
    0x1B50, 0x1BB0, 0x1C40, 0x1C50, 0xA620, 0xA8D0, 0xA900, 0xA9D0, 0xA9F0, 0xAA50, 0xABF0,
    0xFF10, 0x104A0, 0x10D30, 0x11066, 0x110F0, 0x11136, 0x111D0, 0x112F0, 0x11450, 0x114D0,
    0x11650, 0x116C0, 0x11730, 0x118E0, 0x11950, 0x11C50, 0x11D50, 0x11DA0, 0x16A60, 0x16AC0,
    0x16B50, 0x1D7CE, 0x1D7D8, 0x1D7E2, 0x1D7EC, 0x1D7F6, 0x1E140, 0x1E2F0, 0x1E950, 0x1FBF0]

def digitValue? (c : Char) : Option Nat :=
  (digitZeros.find? fun first => first ≤ c.toNat && c.toNat ≤ first + 9).map (c.toNat - ·)

/-- Decimal digits in which single underscores part digits from digits; `value` is what the
digits so far denote, and `parted` tells that an underscore stands just before. -/
def digitsValue? (value : Nat) (parted : Bool) : List Char → Option Nat
  | [] => if parted then none else some value
  | c :: rest =>
    if c = '_' then
      if parted then none else digitsValue? value true rest
    else
      match digitValue? c with
      | some digit => digitsValue? (10 * value + digit) false rest
      | none => none

/-- A natural number: digits, the first of which is no underscore. -/
def natural? : List Char → Option Nat
  | [] => none
  | c :: rest => digitsValue? 0 true (c :: rest)

def splitSign : List Char → Bool × List Char
  | '-' :: rest => (true, rest)
  | '+' :: rest => (false, rest)
  | cs => (false, cs)

/-- An integer is read from at most this many digits. -/
def maxDigits : Nat := 4300

def digitCount (cs : List Char) : Nat := cs.countP fun c => (digitValue? c).isSome

/-- The sign of a text that is to denote an integer, and what stands behind it. -/
def signedDigits (s : String) : Bool × List Char := splitSign (stripChars isMargin s.toList)

def integer? (s : String) : Option Int :=
  let (negative, digits) := signedDigits s
  if maxDigits < digitCount digits then none
  else (natural? digits).map fun n => if negative then -(n : Int) else n

/-- How much of a text a message shows, its quotes included. -/
def shownLength : Nat := 200

/-- The message about an integer with too many digits. -/
def overlongMessage (count : Nat) : String :=
  s!"Exceeds the limit ({maxDigits} digits) for integer string conversion: "
    ++ s!"value has {count} digits; "
    ++ "use sys.set_int_max_str_digits() to increase the limit"

/-- The message about a text that denotes no integer, or one with too many digits. A long text is
cut. -/
def integerMessage (s : String) : String :=
  let digits := (signedDigits s).2
  if maxDigits < digitCount digits && (natural? digits).isSome then
    overlongMessage (digitCount digits)
  else
    "invalid literal for int() with base 10: "
      ++ String.ofList ((quoted s).toList.take shownLength)

/-- Zeros are put in front of the digits until the text, its sign included, has `width`
characters. -/
def padded (width : Nat) (n : Int) : String :=
  let digits := toString n.natAbs
  let sign := if n < 0 then "-" else ""
  sign ++ String.ofList (List.replicate (width - sign.length - digits.length) '0') ++ digits

end Text
end Issuance
