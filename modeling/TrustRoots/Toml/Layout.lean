import TrustRoots.Toml.Scan

/-! What stands between the values of a document: blanks, comments and line ends. -/

namespace TrustRoots.Toml
open Scan

def isBlank (character : Char) : Bool :=
  character = ' ' || character = '\t'

/-- Characters that comments and texts may hold as they are: tabs, printable ASCII and all that
is not ASCII. -/
def isPlain (character : Char) : Bool :=
  character = '\t' || (0x20 ≤ character.toNat && character.toNat ≠ 0x7f)

def blanks : Scan Unit := do
  let _ ← span isBlank

/-- A line feed, or a carriage return with a line feed behind it. -/
def newline? : Scan (Option (List Char)) := do
  if ← accept ['\n'] then return some ['\n']
  if ← accept ['\r', '\n'] then return some ['\r', '\n']
  return none

def comment : Scan Unit := do
  if ← accept ['#'] then
    let _ ← span isPlain

/-- The rest of a line after a statement: blanks, a comment, and the end of the line or of the
document. -/
def lineEnd : Scan Unit := do
  blanks
  comment
  if (← newline?).isSome then return
  if ← atEnd then return
  failure

/-- One blank run, comment or line end between the items of a bracketed list. -/
def gap : Scan (Option Unit) := do
  match ← peek with
  | some '#' => comment; return some ()
  | some ' ' | some '\t' => blanks; return some ()
  | _ => return (← newline?).map fun _ => ()

def gaps : Scan Unit := do
  let _ ← many gap

/-- Items with commas between them up to a closing mark, behind an opening mark already read. A
comma may stand behind the last item too. -/
def bracketed (close : Char) (item : Scan α) : Scan (List α) := many do
  gaps
  if ← accept [close] then return none
  let value ← item
  gaps
  if ← accept [','] then return some value
  if (← peek) = some close then return some value
  failure

end TrustRoots.Toml
