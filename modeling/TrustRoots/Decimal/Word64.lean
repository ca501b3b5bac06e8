/-! Numbers of sixty-four bits read from decimal digits of ASCII. Whether a number fits is checked at
each digit, so that any number of leading zeros passes. -/

namespace TrustRoots.Word64

/-- A number with one more digit behind it, if that is a digit and the longer number fits. -/
def extend? (value : UInt64) (digit : Char) : Option UInt64 :=
  let longer := 10 * value.toNat + (digit.toNat - '0'.toNat)
  if digit.isDigit ∧ longer < UInt64.size then some (UInt64.ofNat longer) else none

def ofDigits? (digits : List Char) : Option UInt64 :=
  if digits = [] then none else digits.foldlM extend? 0

/-- Reads a whole text as a number. A plus sign may stand in front of the digits. -/
def read? : List Char → Option UInt64
  | '+' :: digits => ofDigits? digits
  | digits => ofDigits? digits

end TrustRoots.Word64
