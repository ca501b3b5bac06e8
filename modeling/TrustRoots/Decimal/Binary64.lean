/-! Positive numbers rounded to the nearest binary floating-point number of 64 bits, in exact
arithmetic on natural numbers. -/

namespace TrustRoots

/-- A finite number `significand * 2 ^ exponent`. The significand has at most 53 bits and the
exponent is -1074 or more; below 53 bits the exponent is -1074. -/
structure Binary64 where
  significand : Nat
  exponent : Int
  deriving DecidableEq

namespace Binary64

def zero : Binary64 := ⟨0, -1074⟩

/-- The least significand of 53 bits. -/
def leading : Nat := 4503599627370496

/-- Scales a fraction by a power of a base, which goes to the side that keeps it whole. -/
def scale (base : Nat) (exponent : Int) (numerator denominator : Nat) : Nat × Nat :=
  (numerator * Nat.pow base exponent.toNat, denominator * Nat.pow base (-exponent).toNat)

/-- The quotient rounded to the nearest whole number, of two equally near ones to the even. -/
def roundEven (numerator denominator : Nat) : Nat :=
  let quotient := numerator / denominator
  let remainder := 2 * (numerator % denominator)
  if remainder < denominator ∨ remainder = denominator ∧ quotient % 2 = 0 then quotient
  else quotient + 1

/-- The exponent of the largest power of two that is not above a positive fraction. -/
def log2Fraction (numerator denominator : Nat) : Int :=
  let guess : Int := (Nat.log2 numerator : Int) - (Nat.log2 denominator : Int)
  let (left, right) := scale 2 (-guess) numerator denominator
  if right ≤ left then guess else guess - 1

/-- The number nearest to a fraction, or nothing if that lies beyond the largest one. -/
def nearest? (numerator denominator : Nat) : Option Binary64 :=
  if numerator = 0 then some zero
  else
    let exponent := max (-1074) (log2Fraction numerator denominator - 52)
    let (left, right) := scale 2 (-exponent) numerator denominator
    let rounded := roundEven left right
    let result : Binary64 :=
      if rounded = 2 * leading then ⟨leading, exponent + 1⟩ else ⟨rounded, exponent⟩
    if 971 < result.exponent then none else some result

/-- The number nearest to `digits * 10 ^ exponent`. Magnitudes far outside the range are settled
by the number of bits alone, of which each is worth 0.3 to 0.31 decimal places. -/
def ofDecimal? (digits : Nat) (exponent : Int) : Option Binary64 :=
  if digits = 0 then some zero
  else
    let bits := Nat.log2 digits
    if 310 < (3 * bits / 10 : Nat) + exponent then none
    else if (31 * (bits + 1) / 100 : Nat) + 1 + exponent < -330 then some zero
    else
      let (numerator, denominator) := scale 10 exponent digits 1
      nearest? numerator denominator

end Binary64

end TrustRoots
