import ReleaseAnalysis.Toml.Text

/-!
# Dates and times

A moment is a date, a time, or a date with a time and perhaps an offset. Its normal text has a `T`
before the time, a `Z` for no offset, and at most nine digits of a second without zeros at the end.
-/

set_option autoImplicit false

namespace ReleaseAnalysis

namespace Toml

open Reading

/-- Reads a number of exactly so many digits between bounds. -/
def readField (digits low high : Nat) : Reading (List Char) := do
  let found ← takeExactly Char.isDigit digits
  guard (low ≤ numberOf 10 found ∧ numberOf 10 found ≤ high)
  return found

/-- Whether a year has a twenty-ninth of February. -/
def isLeap (year : Nat) : Bool := year % 4 = 0 && (year % 100 ≠ 0 || year % 400 = 0)

/-- The number of days of a month. -/
def daysOf (year month : Nat) : Nat :=
  if month = 2 then (if isLeap year then 29 else 28)
  else if month ∈ [4, 6, 9, 11] then 30
  else 31

/-- Reads a date. -/
def readDate : Reading (List Char) := do
  let year ← readField 4 0 9999
  expect "-"
  let month ← readField 2 1 12
  expect "-"
  let day ← readField 2 1 (daysOf (numberOf 10 year) (numberOf 10 month))
  return year ++ '-' :: month ++ '-' :: day

/-- The digits of a second that count. -/
def normalFraction (digits : List Char) : List Char :=
  ((digits.take 9).reverse.dropWhile (· == '0')).reverse

/-- Reads the fraction of a second, if there is one. -/
def readFraction : Reading (List Char) := do
  if ← accept "." then
    let digits ← takeWhile Char.isDigit
    guard !digits.isEmpty
    let normal := normalFraction digits
    return if normal.isEmpty then [] else '.' :: normal
  else return []

/-- Reads a time of a day, which may have a leap second. -/
def readTime : Reading (List Char) := do
  let hour ← readField 2 0 23
  expect ":"
  let minute ← readField 2 0 59
  expect ":"
  let second ← readField 2 0 60
  return hour ++ ':' :: minute ++ ':' :: second ++ (← readFraction)

/-- Reads an offset. None to the west is written like none to the east. -/
def readOffset : Reading (List Char) := do
  let sign ← take fun c => c == 'Z' || c == 'z' || c == '+' || c == '-'
  if sign = 'Z' ∨ sign = 'z' then return ['Z']
  else
    let hour ← readField 2 0 23
    expect ":"
    let minute ← readField 2 0 59
    let sign := if numberOf 10 (hour ++ minute) = 0 then '+' else sign
    return sign :: hour ++ ':' :: minute

/-- Reads the time that belongs to a date. -/
def readTimeOfDate : Reading (List Char) := do
  let _ ← take fun c => c == 'T' || c == 't' || c == ' '
  let time ← readTime
  return 'T' :: time ++ (← readOffset <|> return [])

/-- Reads a moment, given by its normal text. -/
def readMoment : Reading String :=
  (do
    let date ← readDate
    return String.ofList (date ++ (← readTimeOfDate <|> return []))) <|>
  (do return String.ofList (← readTime))

end Toml

end ReleaseAnalysis
