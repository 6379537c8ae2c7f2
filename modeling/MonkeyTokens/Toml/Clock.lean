/-
# TOML dates and times

A date, a time of day with seconds, or a date and a time with a letter or a space between them, and
then possibly the distance from universal time.  Every field has exactly its digits, and a day has
to exist in its month.
-/
import MonkeyTokens.Toml.Number

namespace MonkeyTokens.Toml

open Scanner

/-! ## 1. Fields -/

/-- A field of exactly `n` digits. -/
def field (n : Nat) : Scanner Nat := do
  let ds ← (List.replicate n ()).mapM fun _ => satisfy "a digit" isDecimalDigit
  return Text.digitsValue 10 ds

/-- A field of two digits with a smallest and a largest value. -/
def fieldBetween (what : String) (low high : Nat) : Scanner Nat := do
  let n ← field 2
  if low ≤ n ∧ n ≤ high then return n else throw (.outOfRange what)

/-! ## 2. Dates -/

def isLeapYear (year : Nat) : Bool :=
  year % 4 == 0 && (year % 100 != 0 || year % 400 == 0)

def daysInMonth (year month : Nat) : Nat :=
  if month = 2 then (if isLeapYear year then 29 else 28)
  else if month = 4 ∨ month = 6 ∨ month = 9 ∨ month = 11 then 30
  else 31

def date : Scanner Date := do
  let year ← field 4
  char '-'
  let month ← fieldBetween "month" 1 12
  char '-'
  let day ← fieldBetween "day" 1 (daysInMonth year month)
  return ⟨year, month, day⟩

/-! ## 3. Times -/

/-- Nanoseconds from the digits behind the point of the seconds. -/
def nanoseconds (ds : List Char) : Nat :=
  Text.digitsValue 10 ((ds ++ List.replicate 9 '0').take 9)

/-- The digits of a fraction of a second. -/
def secondFraction : Scanner Nat := do
  char '.'
  let first ← satisfy "a digit" isDecimalDigit
  return nanoseconds (first :: (← takeWhile isDecimalDigit))

/-- A time of day.  A minute may have a leap second. -/
def time : Scanner Time := do
  let hour ← fieldBetween "hour" 0 23
  char ':'
  let minute ← fieldBetween "minute" 0 59
  char ':'
  let second ← fieldBetween "second" 0 60
  return ⟨hour, minute, second, (← optional secondFraction).getD 0⟩

/-- The minutes by which a clock is ahead of universal time. -/
def offset : Scanner Int :=
  (do
    let _ ← satisfy "an offset" fun c => c == 'Z' || c == 'z'
    return 0) <|>
  (do
    let mark ← satisfy "an offset" fun c => c == '+' || c == '-'
    let hours ← fieldBetween "hour" 0 23
    char ':'
    let minutes ← fieldBetween "minute" 0 59
    let distance : Int := hours * 60 + minutes
    return if mark == '-' then -distance else distance)

/-- What follows a date on the same value: a time, and possibly an offset. -/
def timeOfDate : Scanner (Time × Option Int) := do
  let _ ← satisfy "a time" fun c => c == 'T' || c == 't' || c == ' '
  let t ← time
  return (t, ← optional offset)

def dateTime : Scanner Value :=
  (do
    let d ← date
    match ← optional timeOfDate with
    | some (t, o) => return .dateTime ⟨some d, some t, o⟩
    | none => return .dateTime ⟨some d, none, none⟩) <|>
  (do return .dateTime ⟨none, some (← time), none⟩)

end MonkeyTokens.Toml
