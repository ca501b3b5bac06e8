import TrustRoots.Toml.Scan

/-! Dates and times: a date, a time, or both with an optional offset. Seconds may be left out. -/

namespace TrustRoots.Toml.Moment
open Scan

def digits (count : Nat) : Scan Nat := do
  let text ← get
  let found := text.take count
  if found.length = count ∧ found.all Char.isDigit then
    set (text.drop count)
    return Nat.ofDigitChars 10 found 0
  else failure

def within (count low high : Nat) : Scan Nat := do
  let value ← digits count
  if low ≤ value ∧ value ≤ high then return value else failure

def isLeapYear (year : Nat) : Bool :=
  year % 4 = 0 && (year % 100 ≠ 0 || year % 400 = 0)

def daysIn (year month : Nat) : Nat :=
  if month = 2 then (if isLeapYear year then 29 else 28)
  else if month ∈ [4, 6, 9, 11] then 30
  else 31

def date : Scan Unit := do
  let year ← digits 4
  expect ['-']
  let month ← within 2 1 12
  expect ['-']
  let _ ← within 2 1 (daysIn year month)

def time : Scan Unit := do
  let _ ← within 2 0 23
  expect [':']
  let _ ← within 2 0 59
  if ← accept [':'] then
    let _ ← within 2 0 60
    if ← accept ['.'] then
      if (← span Char.isDigit).isEmpty then failure

def offset : Scan Unit := do
  if ← accept ['Z'] then return
  if ← accept ['z'] then return
  if !(← accept ['+']) then expect ['-']
  let _ ← within 2 0 23
  expect [':']
  let _ ← within 2 0 59

/-- A time behind a date, with the mark between them. -/
def timeOfDay : Scan Unit := do
  let _ ← satisfy (fun mark => mark = 'T' || mark = 't' || mark = ' ')
  time
  if !(← atEnd) then offset

def moment : Scan Unit := do
  if (((← get).drop 2).head?) = some ':' then time
  else
    date
    if !(← atEnd) then timeOfDay

/-- Whether a whole text is a date, a time or both. -/
def isMoment (text : List Char) : Bool :=
  match moment text with
  | some (_, []) => true
  | _ => false

end TrustRoots.Toml.Moment
