/-!
Double precision numbers as bits, with exact arithmetic on the rationals that
they stand for.  `Binary64.ofRatio` rounds to the nearest one and, half-way
between two, to the one whose last bit is zero.
-/

namespace BrowserBridge.Binary64

def infinity : UInt64 := 0x7FF0000000000000

def signBit : UInt64 := 0x8000000000000000

def isNegative (bits : UInt64) : Bool := signBit ≤ bits

/-- The bits without the sign. -/
def magnitude (bits : UInt64) : UInt64 := bits &&& 0x7FFFFFFFFFFFFFFF

def negate (bits : UInt64) : UInt64 := bits ^^^ signBit

/-- The significand and the exponent of two of a finite number, without its
sign. -/
def parts (bits : UInt64) : Nat × Int :=
  let n := (magnitude bits).toNat
  let field : Nat := n / 0x10000000000000
  if field = 0 then (n, -1074)
  else (n % 0x10000000000000 + 0x10000000000000, Int.ofNat field - 1075)

/-- A finite number without its sign as a numerator and a denominator. -/
def toRatio (bits : UInt64) : Nat × Nat :=
  match parts bits with
  | (significand, .ofNat e) => (significand * Nat.pow 2 e, 1)
  | (significand, .negSucc e) => (significand, Nat.pow 2 (e + 1))

/-- A quotient rounded to the nearest integer, and half-way to the even one. -/
def roundDiv (numerator denominator : Nat) : Nat :=
  let quotient := numerator / denominator
  let twice := 2 * (numerator % denominator)
  if denominator < twice || (twice = denominator && quotient % 2 = 1) then quotient + 1
  else quotient

/-- The number nearest to a positive quotient, or infinity. -/
def ofRatio (numerator denominator : Nat) : UInt64 :=
  if numerator = 0 then 0
  else
    let estimate : Int := (numerator.log2 : Int) - denominator.log2 - 52
    let below := if 0 ≤ estimate
      then numerator < 0x10000000000000 * denominator * Nat.pow 2 estimate.toNat
      else numerator * Nat.pow 2 (-estimate).toNat < 0x10000000000000 * denominator
    let exponent := max (-1074) (if below then estimate - 1 else estimate)
    let significand := if 0 ≤ exponent
      then roundDiv numerator (denominator * Nat.pow 2 exponent.toNat)
      else roundDiv (numerator * Nat.pow 2 (-exponent).toNat) denominator
    let bits := (exponent + 1074).toNat * 0x10000000000000 + significand
    if bits < infinity.toNat then UInt64.ofNat bits else infinity

def ofNat (n : Nat) : UInt64 := ofRatio n 1

def mul (a b : UInt64) : UInt64 :=
  let (an, ad) := toRatio a
  let (bn, bd) := toRatio b
  ofRatio (an * bn) (ad * bd)

def div (a b : UInt64) : UInt64 :=
  let (an, ad) := toRatio a
  let (bn, bd) := toRatio b
  ofRatio (an * bd) (ad * bn)

end BrowserBridge.Binary64
