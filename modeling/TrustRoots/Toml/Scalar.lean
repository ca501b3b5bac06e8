import TrustRoots.Toml.Layout
import TrustRoots.Toml.Moment
import TrustRoots.Toml.Value

/-! Values without quotes or brackets: booleans, numbers, dates and times. -/

namespace TrustRoots.Toml.Scalar
open Scan

def isMark (character : Char) : Bool :=
  character ∈ ['=', ',', '[', ']', '\x7b', '\x7d', '#', '\r', '\n']

/-- Characters of a scalar: all but marks and blanks. -/
def isScalar (character : Char) : Bool :=
  !isMark character && !isBlank character

/-- Characters that go on with a scalar behind blanks. -/
def isResumed (character : Char) : Bool :=
  isScalar character && character ∉ ['.', '"', '\'']

/-- A further run of a scalar, with the blanks in front of it. -/
def furtherRun : Scan (Option (List Char)) := do
  let text ← get
  let gap ← span isBlank
  if (← peek).any isResumed then return some (gap ++ (← span isScalar))
  set text
  return none

/-- The characters of a scalar, in which blanks may stand as they do between a date and a time. -/
def written : Scan (List Char) := do
  let first ← span isScalar
  return first ++ (← many furtherRun).flatten

def value? (text : List Char) : Option Value :=
  if text = ['t', 'r', 'u', 'e'] then some (.boolean true)
  else if text = ['f', 'a', 'l', 's', 'e'] then some (.boolean false)
  else if Moment.isMoment text then some (.moment (String.ofList text))
  else match Number.whole? text with
    | some number => some (.integer number)
    | none => (Number.real? text).map Value.real

def scalar : Scan Value := do
  match value? (← written) with
  | some value => return value
  | none => failure

end TrustRoots.Toml.Scalar
