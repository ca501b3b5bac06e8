/-! Scans over lists of characters. A scan gives a value and the characters behind it, or nothing
if the text is malformed. -/

namespace TrustRoots.Toml

abbrev Scan := StateT (List Char) Option

namespace Scan

def peek : Scan (Option Char) := do
  return (← get).head?

def atEnd : Scan Bool := do
  return (← get).isEmpty

/-- Takes the characters of a mark if the text begins with them. -/
def accept (mark : List Char) : Scan Bool := do
  let text ← get
  if mark.isPrefixOf text then
    set (text.drop mark.length)
    return true
  else return false

def expect (mark : List Char) : Scan Unit := do
  if ← accept mark then return else failure

def satisfy (allowed : Char → Bool) : Scan Char := do
  match ← get with
  | next :: rest =>
    if allowed next then
      set rest
      return next
    else failure
  | [] => failure

/-- The longest run of allowed characters, which may be empty. -/
def span (allowed : Char → Bool) : Scan (List Char) := do
  let text ← get
  set (text.dropWhile allowed)
  return text.takeWhile allowed

/-- Repeats a step behind values already read, which are held last first, until it gives no
value. A list of any characters bounds the rounds by its length. -/
def repeatOnto (step : Scan (Option α)) : List Char → List α → Scan (List α)
  | [], _ => failure
  | _ :: rounds, read => do
    match ← step with
    | none => return read.reverse
    | some value => repeatOnto step rounds (value :: read)

/-- Repeats a step until it gives no value. A step that gives one takes at least a character, so
that the text and one round more for its end are enough. -/
def many (step : Scan (Option α)) : Scan (List α) := do
  repeatOnto step ('\n' :: (← get)) []

end Scan

end TrustRoots.Toml
