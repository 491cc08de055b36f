import BrowserBridge.Number.Binary64

/-!
The shortest decimal that reads back as a given double precision number.  Among
the decimals with the fewest digits the nearest is taken, and half-way between
two the even one.
-/

namespace BrowserBridge.Shortest

/-- A decimal: its digits, most significant first, and the exponent of ten of the
first one. -/
structure Decimal where
  digits : List Char
  exponent : Int
  deriving DecidableEq, Repr

def digitsOf (n : Nat) : List Char := Nat.toDigits 10 n

/-- The exponent of ten of the first digit of a positive quotient. -/
def leadingExponent (numerator denominator : Nat) : Int :=
  if denominator ≤ numerator then (digitsOf (numerator / denominator)).length - 1
  else
    let places := (digitsOf (denominator / numerator)).length
    if denominator ≤ numerator * Nat.pow 10 (places - 1) then 1 - places else -places

/-- An interval of reals over a common denominator around a value. -/
structure Interval where
  value : Nat
  low : Nat
  high : Nat
  denominator : Nat
  /-- Whether the ends belong to it. -/
  closed : Bool

/-- Whether a quotient over the interval's denominator lies inside. -/
def Interval.holds (interval : Interval) (numerator : Nat) : Bool :=
  if interval.closed then interval.low ≤ numerator && numerator ≤ interval.high
  else interval.low < numerator && numerator < interval.high

/-- The reals that round to a positive finite number, all parts scaled by four
so that the half-way points are whole. -/
def interval (bits : UInt64) : Interval :=
  let (significand, exponent) := Binary64.parts bits
  let scale := if 0 ≤ exponent then Nat.pow 2 exponent.toNat else 1
  let denominator := if 0 ≤ exponent then 4 else 4 * Nat.pow 2 (-exponent).toNat
  let below := if significand = 0x10000000000000 && exponent ≠ -1074 then 1 else 2
  { value := 4 * significand * scale
    low := (4 * significand - below) * scale
    high := (4 * significand + 2) * scale
    denominator := denominator
    closed := significand % 2 = 0 }

/-- The point of the decimal grid with `places` digits that reads back, if one
does: a number of grid steps. -/
def onGrid? (interval : Interval) (leading : Int) (places : Nat) : Option Nat :=
  let step : Int := leading - places + 1
  let scaled (n : Nat) : Nat := if 0 ≤ step then n else n * Nat.pow 10 (-step).toNat
  let unit := interval.denominator * (if 0 ≤ step then Nat.pow 10 step.toNat else 1)
  let scaledInterval : Interval :=
    ⟨scaled interval.value, scaled interval.low, scaled interval.high, unit, interval.closed⟩
  let lower := scaledInterval.value / unit
  let remainder := scaledInterval.value % unit
  let lowerHolds := lower ≠ 0 && scaledInterval.holds (lower * unit)
  let upperHolds := scaledInterval.holds ((lower + 1) * unit)
  match lowerHolds, upperHolds with
  | true, true =>
    if 2 * remainder < unit || (2 * remainder = unit && lower % 2 = 0) then some lower
    else some (lower + 1)
  | true, false => some lower
  | false, true => some (lower + 1)
  | false, false => none

/-- The shortest decimal of a positive finite number.  Seventeen digits always
read back. -/
def ofBits (bits : UInt64) : Decimal :=
  let interval := interval bits
  let leading := leadingExponent interval.value interval.denominator
  let places := (List.range 17).map (· + 1)
  match places.findSome? fun places => (onGrid? interval leading places).map (places, ·) with
  | some (places, steps) =>
    let digits := digitsOf steps
    { digits := (digits.reverse.dropWhile (· == '0')).reverse
      exponent := leading + digits.length - places }
  | none => ⟨['0'], 0⟩

end BrowserBridge.Shortest
