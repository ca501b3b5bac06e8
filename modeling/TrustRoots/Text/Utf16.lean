import TrustRoots.Bytes.BigEndian

/-! Text as big-endian UTF-16 bytes, with a surrogate pair for each character above U+FFFF. -/

namespace TrustRoots.Utf16

def units (character : Char) : List Nat :=
  let value := character.toNat
  if value < 0x10000 then [value]
  else [0xd800 + (value - 0x10000) / 0x400, 0xdc00 + (value - 0x10000) % 0x400]

def encodeUnits (characters : List Char) : List Nat :=
  characters.flatMap units

def encode (text : String) : Bytes :=
  (encodeUnits text.toList).flatMap (BigEndian.encode 2)

end TrustRoots.Utf16
