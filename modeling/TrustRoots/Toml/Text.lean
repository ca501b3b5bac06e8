import TrustRoots.Toml.Layout
import TrustRoots.Bytes.Hex

/-! Quoted texts. Double quotes allow escapes and single quotes do not; three of a kind open a
text of several lines. -/

namespace TrustRoots.Toml
open Scan

/-- A character by the given number of hexadecimal digits. Surrogates are no characters. -/
def hexCharacter (digits : Nat) : Scan Char := do
  let text ← get
  let values := (text.take digits).filterMap Hex.value?
  if values.length < digits then failure
  let code := values.foldl (fun code value => 16 * code + value) 0
  if code < 0xd800 ∨ (0xdfff < code ∧ code ≤ 0x10ffff) then
    set (text.drop digits)
    return Char.ofNat code
  else failure

/-- The character that an escape stands for, behind its backslash. -/
def escaped : Scan Char := do
  match ← satisfy (fun _ => true) with
  | 'b' => return '\x08'
  | 't' => return '\t'
  | 'n' => return '\n'
  | 'f' => return '\x0c'
  | 'r' => return '\r'
  | 'e' => return '\x1b'
  | '"' => return '"'
  | '\\' => return '\\'
  | 'x' => hexCharacter 2
  | 'u' => hexCharacter 4
  | 'U' => hexCharacter 8
  | _ => failure

def basicText : Scan (List Char) := many do
  if ← accept ['"'] then return none
  if ← accept ['\\'] then return some (← escaped)
  return some (← satisfy isPlain)

def literalText : Scan (List Char) := many do
  if ← accept ['\''] then return none
  return some (← satisfy isPlain)

/-- The next piece of a text of several lines that begins with its quote. Up to two quotes are
part of the text; three close it, and may have up to two in front of them. -/
def quotes (quote : Char) : Scan (Option (List Char)) := do
  let text ← get
  let count := (text.takeWhile (· = quote)).length
  if 5 < count then failure
  let kept := if count < 3 then count else count - 3
  set (text.drop (if count = 3 then 3 else kept))
  return if count = 3 then none else some (List.replicate kept quote)

def fold : Scan (Option Unit) := do
  match ← peek with
  | some ' ' | some '\t' => blanks; return some ()
  | _ => return (← newline?).map fun _ => ()

/-- What a backslash in a text of several lines stands for. At the end of a line it takes all
blanks and line ends up to the next character. -/
def escapedOrFolded : Scan (List Char) := do
  let rest := (← get).dropWhile isBlank
  if ['\n'].isPrefixOf rest || ['\r', '\n'].isPrefixOf rest then
    let _ ← many fold
    return []
  return [← escaped]

/-- A text of several lines behind its opening quotes, without a line end right behind them. -/
def severalLines (quote : Char) (escapes : Bool) : Scan (List Char) := do
  let _ ← newline?
  let pieces ← many do
    let next ← peek
    if next = some quote then quotes quote
    else if escapes && next = some '\\' then
      expect ['\\']
      return some (← escapedOrFolded)
    else match ← newline? with
      | some lineEnd => return some lineEnd
      | none => return some [← satisfy isPlain]
  return pieces.flatten

/-- A text in quotes of either kind on one line, which may also be a key. -/
def quotedLine : Scan (List Char) := do
  if ← accept ['"'] then basicText
  else
    expect ['\'']
    literalText

def quoted : Scan (List Char) := do
  if ← accept ['"', '"', '"'] then severalLines '"' true
  else if ← accept ['\'', '\'', '\''] then severalLines '\'' false
  else quotedLine

end TrustRoots.Toml
