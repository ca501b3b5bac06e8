import TrustRoots.Bytes.Hex

/-! Numbers as they are written in a document. Underscores may group digits. A whole number keeps
its written form, since it takes a value only where one is asked for. -/

namespace TrustRoots.Toml

/-- A written whole number, with the underscores taken out and its sign kept. -/
structure Whole where
  base : Nat
  written : List Char

/-- A written floating-point number, before rounding. -/
inductive Real where
  | finite (negative : Bool) (digits : Nat) (exponent : Int)
  | infinite (negative : Bool)
  | notANumber

namespace Number

def isDigitOf (base : Nat) (character : Char) : Bool :=
  (Hex.value? character).any (· < base)

def ofDigits (base : Nat) (digits : List Char) : Nat :=
  digits.foldl (fun value digit => base * value + (Hex.value? digit).getD 0) 0

/-- Whether every underscore stands between two hexadecimal digits, whatever else the text
holds. -/
def isGrouped : List Char → Bool
  | [] => true
  | '_' :: _ => false
  | before :: '_' :: after :: rest =>
    Hex.isDigit before && Hex.isDigit after && isGrouped (after :: rest)
  | _ :: rest => isGrouped rest

def joined? (text : List Char) : Option (List Char) :=
  if isGrouped text then some (text.filter (· ≠ '_')) else none

/-- At least one decimal digit, and nothing else but underscores between them. -/
def digits? (text : List Char) : Option (List Char) := do
  let plain ← joined? text
  if plain.isEmpty || !plain.all Char.isDigit then none else return plain

/-- Whether a zero stands in front of further characters. -/
def hasLeadingZero (text : List Char) : Bool :=
  text.head? = some '0' && 1 < text.length

/-- A number is negative if a minus is in front of it. -/
def signed : List Char → Bool × List Char
  | '+' :: rest => (false, rest)
  | '-' :: rest => (true, rest)
  | text => (false, text)

def negateIf (negative : Bool) (value : Nat) : Int :=
  if negative then -(value : Int) else value

/-- A whole number behind the mark of its base. No digits at all are a written form too. -/
def radix? (base : Nat) (text : List Char) : Option Whole := do
  let plain ← joined? text
  if plain.all (isDigitOf base) then return { base, written := plain } else none

/-- Characters by which a text that begins with digits is something else than a whole number. -/
def isForeign (character : Char) : Bool :=
  character ∈ [' ', '.', 'e', 'E']

/-- A decimal whole number. Behind the first underscore all but foreign characters may stand in
the written form, which then has no value. -/
def decimal? (text : List Char) : Option Whole := do
  let (_, magnitude) := signed text
  let rest := magnitude.dropWhile Char.isDigit
  if !magnitude.head?.any Char.isDigit || hasLeadingZero magnitude then none
  else if !rest.head?.all (· = '_') || rest.any isForeign then none
  else return { base := 10, written := ← joined? text }

def whole? : List Char → Option Whole
  | '0' :: 'x' :: digits => radix? 16 digits
  | '0' :: 'o' :: digits => radix? 8 digits
  | '0' :: 'b' :: digits => radix? 2 digits
  | text => decimal? text

/-- A text before and after the first character with a property. -/
def splitAt? (found : Char → Bool) (text : List Char) : Option (List Char × List Char) :=
  match text.dropWhile (fun character => !found character) with
  | [] => none
  | _ :: rest => some (text.takeWhile (fun character => !found character), rest)

def isExponentMark (character : Char) : Bool :=
  character = 'e' || character = 'E'

/-- The digits in front of a fraction or an exponent. -/
def upperDigits? (text : List Char) : Option (List Char) :=
  if hasLeadingZero text then none else digits? text

/-- An exponent that has come to this size takes no further digits. -/
def exponentLimit : Nat := 65536

def addExponentDigit (exponent : Nat) (digit : Char) : Nat :=
  if exponent < exponentLimit then 10 * exponent + (Hex.value? digit).getD 0 else exponent

/-- An exponent, in which zeros may stand in front. Digits behind those that bring it to its
limit are passed over. -/
def exponent? (text : List Char) : Option Int := do
  let (negative, digits) := signed text
  return negateIf negative ((← digits? digits).foldl addExponentDigit 0)

/-- A number with a fraction, an exponent, or both. -/
def finite? (negative : Bool) (text : List Char) : Option Real := do
  let (mantissa, exponent) ← match splitAt? isExponentMark text with
    | some (mantissa, exponent) => (exponent? exponent).map (fun value => (mantissa, some value))
    | none => some (text, none)
  match splitAt? (· = '.') mantissa with
  | some (whole, fraction) =>
    let upper ← upperDigits? whole
    let places ← digits? fraction
    return .finite negative (ofDigits 10 (upper ++ places)) (exponent.getD 0 - places.length)
  | none =>
    let exponent ← exponent
    return .finite negative (ofDigits 10 (← upperDigits? mantissa)) exponent

def real? (text : List Char) : Option Real :=
  let (negative, magnitude) := signed text
  if magnitude = ['i', 'n', 'f'] then some (.infinite negative)
  else if magnitude = ['n', 'a', 'n'] then some .notANumber
  else finite? negative magnitude

end Number

/-- The value of a written form that is a sign, if there is one, and digits of the base. -/
def Whole.value? (number : Whole) : Option Int :=
  let (negative, digits) := Number.signed number.written
  if digits.isEmpty || !digits.all (Number.isDigitOf number.base) then none
  else some (Number.negateIf negative (Number.ofDigits number.base digits))

end TrustRoots.Toml
