import EscapeKey.Toml.Reader
import EscapeKey.Toml.Value

/-! TOML dates and times, of which only the form is checked. -/

namespace EscapeKey.Toml

/-- A number of exactly so many digits. -/
def fixedNumber (width : Nat) : Reader Nat := do
  return Nat.ofDigitChars 10 (← takeExactly width Char.isDigit) 0

/-- A number of two digits within bounds. -/
def boundedNumber (low high : Nat) : Reader Unit := do
  let n ← fixedNumber 2
  guard (low ≤ n ∧ n ≤ high)

def daysInMonth (year month : Nat) : Nat :=
  let leap := year % 4 = 0 ∧ (year % 100 ≠ 0 ∨ year % 400 = 0)
  if month = 2 then (if leap then 29 else 28)
  else if month = 4 ∨ month = 6 ∨ month = 9 ∨ month = 11 then 30
  else 31

def date : Reader Unit := do
  let year ← fixedNumber 4
  expect '-'
  let month ← fixedNumber 2
  guard (1 ≤ month ∧ month ≤ 12)
  expect '-'
  boundedNumber 1 (daysInMonth year month)

/-- A time of day; a leap second is allowed in any minute. -/
def timeOfDay : Reader Unit := do
  boundedNumber 0 23
  expect ':'
  boundedNumber 0 59
  expect ':'
  boundedNumber 0 60
  if ← next? '.' then
    guard !(← takeRun Char.isDigit).isEmpty

def offset : Reader Unit := do
  if (← next? 'Z') || (← next? 'z') then return
  unless (← next? '+') || (← next? '-') do failure
  boundedNumber 0 23
  expect ':'
  boundedNumber 0 59

/-- The time that may follow a date. -/
def timeAfterDate : Reader Unit := do
  unless (← next? 'T') || (← next? 't') || (← next? ' ') do failure
  timeOfDay
  discard (optionally offset)

def dateTime : Reader Value :=
  (do date; discard (optionally timeAfterDate); return .dateTime)
    <|> (do timeOfDay; return .dateTime)

end EscapeKey.Toml
