import Issuance.Decimal.Shortest
import Issuance.Text.Integer
/-!
Numbers as they are written and read: integers of any size and doubles.

A double is written with the fewest digits that read back to it, or with six significant digits
where a message asks for a short form.
-/

namespace Issuance

/-- How the digits of a number are laid out: positionally up to a power of ten, with a suffix for
whole numbers, and with an exponent of at least two digits elsewhere. -/
structure DecimalLayout where
  positionalBelow : Int
  wholeSuffix : String

namespace DecimalLayout

/-- Full texts are positional below `10 ^ 16` and show that a whole number is a double. -/
def full : DecimalLayout := ⟨16, ".0"⟩

/-- Short texts are positional within their six digits. -/
def short : DecimalLayout := ⟨6, ""⟩

/-- The exponents below which no layout is positional. -/
def positionalFrom : Int := -4

/-- A number with its point among its digits. -/
def positional (layout : DecimalLayout) (d : Digits) : String :=
  if d.point ≤ 0 then
    "0." ++ String.ofList (List.replicate d.point.natAbs '0' ++ d.digits)
  else
    let whole := d.digits.take d.point.toNat
    let zeros := List.replicate (d.point.toNat - d.digits.length) '0'
    match d.digits.drop d.point.toNat with
    | [] => String.ofList (whole ++ zeros) ++ layout.wholeSuffix
    | fraction => String.ofList (whole ++ '.' :: fraction)

/-- A number as a digit, a fraction and a power of ten. -/
def scientific (d : Digits) : String :=
  let exponent := d.point - 1
  let mantissa := match d.digits with
    | first :: second :: rest => String.ofList (first :: '.' :: second :: rest)
    | digits => String.ofList digits
  let sign := if exponent < 0 then "e-" else "e+"
  mantissa ++ sign ++ Text.padded 2 exponent.natAbs

def write (layout : DecimalLayout) (d : Digits) : String :=
  let exponent := d.point - 1
  if positionalFrom ≤ exponent && exponent < layout.positionalBelow then layout.positional d
  else scientific d

/-- A double in the layout, its digits chosen by `digits`. -/
def writeDouble (layout : DecimalLayout) (digits : Nat → Int → Digits) : Double → String
  | .nan => "nan"
  | .infinite negative => if negative then "-inf" else "inf"
  | .finite negative significand exponent =>
    let sign := if negative then "-" else ""
    if significand = 0 then sign ++ "0" ++ layout.wholeSuffix
    else sign ++ layout.write (digits significand exponent)

end DecimalLayout

namespace Double

/-- The fewest digits that read back to the double. -/
def text (x : Double) : String := DecimalLayout.full.writeDouble Digits.shortest x

/-- At most six significant digits. -/
def shortText (x : Double) : String :=
  DecimalLayout.short.writeDouble (fun m e => (Digits.rounded 6 m e).trimZeros) x

def plainDigit (c : Char) : Char :=
  match Text.digitValue? c with
  | some digit => Nat.digitChar digit
  | none => c

/-- The characters without underscores, if each of them stands between two digits. -/
def withoutUnderscores? (previous : Char) : List Char → Option (List Char)
  | [] => if previous = '_' then none else some []
  | c :: rest =>
    if c = '_' then
      if previous.isDigit then withoutUnderscores? c rest else none
    else if previous = '_' && !c.isDigit then none
    else (withoutUnderscores? c rest).map (c :: ·)

/-- An exponent part: nothing, or a mark with an integer. -/
def exponentPart? : List Char → Option Int
  | [] => some 0
  | mark :: rest =>
    if mark = 'e' || mark = 'E' then
      let (negative, digits) := Text.splitSign rest
      if digits.isEmpty || !digits.all Char.isDigit then none
      else (Text.natural? digits).map fun n => if negative then -(n : Int) else n
    else none

/-- An unsigned decimal: digits with at most one point among them, and an exponent part. -/
def decimal? (negative : Bool) (cs : List Char) : Option Double :=
  let whole := cs.takeWhile Char.isDigit
  let afterWhole := cs.dropWhile Char.isDigit
  let (fraction, rest) := match afterWhole with
    | '.' :: more => (more.takeWhile Char.isDigit, more.dropWhile Char.isDigit)
    | _ => ([], afterWhole)
  match whole ++ fraction with
  | [] => none
  | digits => do
    let exponent ← exponentPart? rest
    let significand ← Text.natural? digits
    some (ofDecimal negative significand (exponent - fraction.length))

/-- The double that a text denotes: a decimal, an infinity or the undefined number, perhaps with
a sign and between blanks. -/
def ofText? (s : String) : Option Double := do
  let cs ← withoutUnderscores? ' ' ((Text.stripChars Text.isMargin s.toList).map plainDigit)
  let (negative, rest) := Text.splitSign cs
  match String.ofList (rest.map Char.toLower) with
  | "inf" | "infinity" => some (.infinite negative)
  | "nan" => some .nan
  | _ => decimal? negative rest

def textMessage (s : String) : String :=
  "could not convert string to float: " ++ Text.quoted s

end Double

/-- A number as data hold it: an integer or a double. -/
inductive Number
  | int (n : Int)
  | double (x : Double)
deriving DecidableEq, Repr, Inhabited

namespace Number

/-- The number as a text that tells doubles from integers. -/
def text : Number → String
  | .int n => toString n
  | .double x => x.text

/-- At most six significant digits; an integer beyond the doubles is written in full. -/
def shortText : Number → String
  | .int n => ((Double.ofInt? n).map Double.shortText).getD (toString n)
  | .double x => x.shortText

def isFinite : Number → Bool
  | .int _ => true
  | .double x => x.isFinite

def isNonpositive : Number → Bool
  | .int n => n ≤ 0
  | .double x => x.isNonpositive

def isZero : Number → Bool
  | .int n => n == 0
  | .double x => x.isZero

def round : Number → Except Double.NotIntegral Int
  | .int n => .ok n
  | .double x => x.round

def truncate : Number → Except Double.NotIntegral Int
  | .int n => .ok n
  | .double x => x.truncate

/-- The number as a double, if it is within their range. -/
def toDouble? : Number → Option Double
  | .int n => Double.ofInt? n
  | .double x => some x

end Number
end Issuance
