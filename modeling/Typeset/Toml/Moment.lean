import Typeset.Toml.Number

/-!
# Dates and times

A date, a time, or both with a distance from universal time. A moment is kept as its text: date and
time parted by `T`, at most nine digits of a second without zeros at the end.
-/

namespace Typeset.Toml

open Scanner

/-- A number of a given count of digits, as its digits. -/
def fixedDigits (count : Nat) : Scanner (List Char) :=
  times count (char Text.isDigit)

/-- The number that digits write. -/
def valueOf (digits : List Char) : Nat :=
  Text.ofDigits 10 (digits.filterMap Text.digit?)

/-- A number of two digits within bounds. -/
def twoDigits (low high : Nat) : Scanner (List Char) := do
  let digits ← fixedDigits 2
  require (low ≤ valueOf digits && valueOf digits ≤ high)
  return digits

/-- Whether a year has a leap day. -/
def isLeapYear (year : Nat) : Bool :=
  year % 4 == 0 && (year % 100 != 0 || year % 400 == 0)

/-- The days of a month. -/
def daysOf (year month : Nat) : Nat :=
  if month = 2 then if isLeapYear year then 29 else 28
  else if month = 4 ∨ month = 6 ∨ month = 9 ∨ month = 11 then 30
  else 31

/-- A date. -/
def date : Scanner (List Char) := do
  let year ← fixedDigits 4
  word ['-']
  let month ← twoDigits 1 12
  word ['-']
  let day ← twoDigits 1 (daysOf (valueOf year) (valueOf month))
  return year ++ '-' :: month ++ '-' :: day

/-- The fraction of a second, cut after nine digits and without the zeros at its end. -/
def secondFraction : Scanner (List Char) := do
  word ['.']
  let digits ← someChars Text.isDigit
  let kept := ((digits.take 9).reverse.dropWhile (· == '0')).reverse
  return if kept.isEmpty then [] else '.' :: kept

/-- A time of day. -/
def time : Scanner (List Char) := do
  let hour ← twoDigits 0 23
  word [':']
  let minute ← twoDigits 0 59
  word [':']
  let second ← twoDigits 0 60
  let fraction ← secondFraction <|> pure []
  return hour ++ ':' :: minute ++ ':' :: second ++ fraction

/-- The sign of a distance from universal time. No distance counts as ahead. -/
def offsetSign (c : Char) (hour minute : List Char) : Char :=
  if valueOf (hour ++ minute) = 0 then '+' else c

/-- The distance from universal time. -/
def offset : Scanner (List Char) :=
  (do
    let _ ← char fun c => c == 'Z' || c == 'z'
    return ['Z']) <|>
  (do
    let c ← char fun c => c == '+' || c == '-'
    let hour ← twoDigits 0 23
    word [':']
    let minute ← twoDigits 0 59
    return offsetSign c hour minute :: hour ++ ':' :: minute)

/-- The time after a date, and the distance from universal time. -/
def timeAfterDate : Scanner (List Char) := do
  let _ ← char fun c => c == 'T' || c == 't' || c == ' '
  let time ← time
  let offset ← offset <|> pure []
  return 'T' :: time ++ offset

/-- A date with or without a time, or a time. -/
def moment : Scanner String := do
  let text ← (do
      let date ← date
      let time ← timeAfterDate <|> pure []
      return date ++ time) <|> time
  return String.ofList text

end Typeset.Toml
