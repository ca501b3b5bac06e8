import TrustRoots.Bytes.BigEndian

/-! Bytes as hexadecimal text. Writing uses lowercase digits, two for each byte;
reading accepts either case. -/

namespace TrustRoots.Hex

def pair (byte : UInt8) : List Char :=
  [Nat.digitChar (byte.toNat / 16), Nat.digitChar (byte.toNat % 16)]

def digits (bytes : Bytes) : List Char :=
  bytes.flatMap pair

def render (bytes : Bytes) : String :=
  String.ofList (digits bytes)

def value? (character : Char) : Option Nat :=
  if '0' ≤ character ∧ character ≤ '9' then some (character.toNat - 48)
  else if 'a' ≤ character ∧ character ≤ 'f' then some (character.toNat - 87)
  else if 'A' ≤ character ∧ character ≤ 'F' then some (character.toNat - 55)
  else none

def isDigit (character : Char) : Bool :=
  (value? character).isSome

/-- Reads pairs of digits behind bytes already read, which are held last first. -/
def readOnto (read : Bytes) : List Char → Option Bytes
  | [] => some read.reverse
  | [_] => none
  | high :: low :: rest =>
    match value? high, value? low with
    | some left, some right => readOnto (UInt8.ofNat (16 * left + right) :: read) rest
    | _, _ => none

def read? (text : List Char) : Option Bytes :=
  readOnto [] text

end TrustRoots.Hex
