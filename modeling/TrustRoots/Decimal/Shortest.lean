import TrustRoots.Decimal.Binary64

/-! The fewest decimal digits that read back as a binary number, written positionally. Of two
shortest candidates the nearer is taken, and the upper one of two that are equally near. -/

namespace TrustRoots.Binary64

/-- A number with the ends of the interval of reals that round to it, all measured in a quarter
of its last place. The ends belong to the interval if the significand is even. -/
structure Interval where
  low : Nat
  value : Nat
  high : Nat
  closed : Bool

def interval (number : Binary64) : Interval where
  low := if number.significand = leading ∧ -1074 < number.exponent then 4 * number.significand - 1
    else 4 * number.significand - 2
  value := 4 * number.significand
  high := 4 * number.significand + 2
  closed := number.significand % 2 = 0

def Interval.contains (range : Interval) (point scale : Nat) : Bool :=
  if range.closed then range.low * scale ≤ point && point ≤ range.high * scale
  else range.low * scale < point && point < range.high * scale

/-- The better of a number's two neighbours among the multiples of a power of ten, if one of
them reads back as the number. -/
def neighbour? (number : Binary64) (grid : Int) : Option Nat :=
  let range := number.interval
  let (scale, unit) := scale 2 (number.exponent - 2) 1 1
  let (unit, scale) := Binary64.scale 10 grid unit scale
  let lower := range.value * scale / unit
  let upper := lower + 1
  let below := range.value * scale - lower * unit
  let above := upper * unit - range.value * scale
  match range.contains (lower * unit) scale, range.contains (upper * unit) scale with
  | true, true => some (if below < above then lower else upper)
  | true, false => some lower
  | false, true => some upper
  | false, false => none

/-- A power of ten above the number, or equal to it. -/
def leadingGrid (number : Binary64) : Int :=
  let (numerator, denominator) := scale 2 number.exponent number.significand 1
  if denominator ≤ numerator then (Nat.toDigits 10 (numerator / denominator)).length
  else 1 - (Nat.toDigits 10 (denominator / numerator)).length

def shortestFrom (number : Binary64) : Nat → Int → Nat × Int
  | 0, grid => (0, grid)
  | tries + 1, grid =>
    match number.neighbour? grid with
    | some digits => (digits, grid)
    | none => shortestFrom number tries (grid - 1)

/-- Digits and a power of ten that multiplies them. Seventeen digits always suffice, so twenty
grids from that of the leading digit are more than enough. -/
def shortest (number : Binary64) : Nat × Int :=
  if number.significand = 0 then (0, 0) else number.shortestFrom 20 number.leadingGrid

/-- Digits with the decimal point in its place, and a zero behind it if nothing else is there. -/
def positional (digits : Nat) (grid : Int) : List Char :=
  let written := Nat.toDigits 10 digits
  if 0 ≤ grid then written ++ List.replicate grid.toNat '0' ++ ['.', '0']
  else
    let places := (-grid).toNat
    let padded := List.replicate (places + 1 - written.length) '0' ++ written
    let whole := padded.length - places
    padded.take whole ++ '.' :: padded.drop whole

def text (number : Binary64) : String :=
  let (digits, grid) := number.shortest
  String.ofList (positional digits grid)

end TrustRoots.Binary64
