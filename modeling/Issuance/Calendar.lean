import Issuance.Text.Integer
/-!
Dates, moments and their written forms.

A date has a long form for readers (`January 5, 2025`) and an ISO form for data. A moment is a
date with a time of day; it may carry the offset of a zone. Moments are ordered by their ticks.
-/

namespace Issuance

structure Date where
  year : Nat
  month : Nat
  day : Nat
deriving DecidableEq, Repr, Inhabited

/-- A date and a time of day, to the microsecond; the offset of its zone is in seconds. -/
structure Moment where
  date : Date
  hour : Nat
  minute : Nat
  second : Nat
  micro : Nat
  offset : Option Int
deriving DecidableEq, Repr, Inhabited

/-- What a date-like value may be. -/
inductive Timepoint
  | date (d : Date)
  | moment (m : Moment)
deriving DecidableEq, Repr

namespace Date

def monthNames : List String :=
  ["January", "February", "March", "April", "May", "June", "July", "August", "September",
    "October", "November", "December"]

/-- The long form: month, day and year. -/
def long (d : Date) : String :=
  monthNames.getD (d.month - 1) "" ++ " " ++ toString d.day ++ ", " ++ toString d.year

def iso (d : Date) : String :=
  Text.padded 4 d.year ++ "-" ++ Text.padded 2 d.month ++ "-" ++ Text.padded 2 d.day

def isLeap (year : Nat) : Bool :=
  year % 4 == 0 && (year % 100 != 0 || year % 400 == 0)

/-- The days of a year before each month. -/
def daysBeforeMonth : List Nat := [0, 31, 59, 90, 120, 151, 181, 212, 243, 273, 304, 334]

/-- The number of a day, counted from the first day of the year one. -/
def number (d : Date) : Nat :=
  let before := d.year - 1
  let leapDay := if 2 < d.month && isLeap d.year then 1 else 0
  365 * before + before / 4 - before / 100 + before / 400
    + daysBeforeMonth.getD (d.month - 1) 0 + leapDay + d.day

def digits? (cs : List Char) : Option Nat :=
  if !cs.isEmpty && cs.all Char.isDigit then Text.natural? cs else none

def ofIso? (s : String) : Option Date :=
  match Text.splitAt (· = '-') s with
  | [y, m, d] => do
    return ⟨← digits? y.toList, ← digits? m.toList, ← digits? d.toList⟩
  | _ => none

end Date

namespace Moment

/-- Microseconds since the beginning of the calendar, by the clock of the moment's own zone. -/
def ticks (m : Moment) : Int :=
  (((m.date.number * 24 + m.hour) * 60 + m.minute) * 60 + m.second) * 1000000 + m.micro

/-- Microseconds since the beginning of the calendar, the offset taken away. -/
def instant (m : Moment) : Int :=
  m.ticks - m.offset.getD 0 * 1000000

def naive (m : Moment) : Moment := { m with offset := none }

/-- The ISO form of an offset; seconds are written only if there are any. -/
def offsetIso (seconds : Int) : String :=
  let n := seconds.natAbs
  let tail := if n % 60 = 0 then "" else ":" ++ Text.padded 2 (n % 60 : Nat)
  (if seconds < 0 then "-" else "+") ++ Text.padded 2 (n / 3600 : Nat) ++ ":"
    ++ Text.padded 2 (n / 60 % 60 : Nat) ++ tail

/-- The ISO form; microseconds are written only if there are any. -/
def iso (m : Moment) : String :=
  let fraction := if m.micro = 0 then "" else "." ++ Text.padded 6 m.micro
  let zone := match m.offset with
    | some seconds => offsetIso seconds
    | none => ""
  m.date.iso ++ "T" ++ Text.padded 2 m.hour ++ ":" ++ Text.padded 2 m.minute ++ ":"
    ++ Text.padded 2 m.second ++ fraction ++ zone

/-- The offset that a zone suffix denotes. -/
def offset? (cs : List Char) : Option (Option Int) :=
  match cs with
  | [] => some none
  | ['Z'] => some (some 0)
  | sign :: rest => do
    let parts ← (Text.splitChars (· = ':') rest).mapM Date.digits?
    let seconds ← match parts with
      | [h] => some (h * 3600)
      | [h, m] => some (h * 3600 + m * 60)
      | [h, m, s] => some (h * 3600 + m * 60 + s)
      | _ => none
    if sign = '-' then some (some (-(seconds : Int)))
    else if sign = '+' then some (some (seconds : Int))
    else none

def fraction? (cs : List Char) : Option Nat :=
  match cs with
  | [] => some 0
  | _ => Date.digits? ((cs ++ List.replicate 6 '0').take 6)

def ofIso? (s : String) : Option Moment := do
  let cs := s.toList
  let date ← Date.ofIso? (String.ofList (cs.take 10))
  let clock := (cs.drop 11).takeWhile fun c => c.isDigit || c = ':' || c = '.'
  let offset ← offset? ((cs.drop 11).drop clock.length)
  let fraction ← fraction? ((clock.dropWhile (· ≠ '.')).drop 1)
  let parts ← (Text.splitChars (· = ':') (clock.takeWhile (· ≠ '.'))).mapM Date.digits?
  match parts with
  | [h] => some ⟨date, h, 0, 0, fraction, offset⟩
  | [h, m] => some ⟨date, h, m, 0, fraction, offset⟩
  | [h, m, sec] => some ⟨date, h, m, sec, fraction, offset⟩
  | _ => none

end Moment

namespace Timepoint

def toDate : Timepoint → Date
  | .date d => d
  | .moment m => m.date

def long (t : Timepoint) : String := t.toDate.long

/-- Whether two values are the same time. A date is no moment, and a moment with a zone is none
without; of two moments with zones the instants are compared. -/
def isSame : Timepoint → Timepoint → Bool
  | .date a, .date b => a == b
  | .moment a, .moment b =>
    a.offset.isSome == b.offset.isSome && a.instant == b.instant
  | _, _ => false

/-- The value of a text: up to ten characters are a date, more are a moment. -/
def ofIso? (s : String) : Option Timepoint :=
  if s.length ≤ 10 then (Date.ofIso? s).map .date else (Moment.ofIso? s).map .moment

end Timepoint

/-- The long form of an optional date-like value. -/
def longDate (t : Option Timepoint) : String :=
  (t.map Timepoint.long).getD ""

/-- The long form of a stretch of time; an end that is missing or the same is left out. -/
def dateRange : Option Timepoint → Option Timepoint → String
  | none, stop => longDate stop
  | start, none => longDate start
  | some start, some stop =>
    if start.isSame stop then start.long else start.long ++ " - " ++ stop.long

end Issuance
