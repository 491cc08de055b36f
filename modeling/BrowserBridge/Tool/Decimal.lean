import BrowserBridge.Tool.Basic

/-!
Decimal numbers with a point, as tools read and write them.
-/

namespace BrowserBridge.Tool

open Shell (Chars)

/-- A number: a sign and a fraction. -/
structure Decimal where
  isNegative : Bool
  numerator : Nat
  denominator : Nat
  /-- How many decimals it was written with. -/
  places : Nat
  deriving DecidableEq

namespace Decimal

/-- Reads a number with a point and an exponent, and what follows it. -/
def take? (text : Chars) : Option (Decimal × Chars) :=
  let (isNegative, body) := match text with
    | '-' :: rest => (true, rest)
    | '+' :: rest => (false, rest)
    | _ => (false, text)
  let (whole, behind) := body.span Char.isDigit
  let (decimals, behind) := match behind with
    | '.' :: rest => rest.span Char.isDigit
    | _ => ([], behind)
  if whole.isEmpty && decimals.isEmpty then none
  else
    let digits := (whole ++ decimals).foldl (fun n c => n * 10 + (c.toNat - '0'.toNat)) 0
    let (exponent, behind) : Int × Chars := match behind with
      | e :: rest =>
        if e = 'e' || e = 'E' then
          let (sign, figures) : Int × Chars := match rest with
            | '-' :: figures => (-1, figures)
            | '+' :: figures => (1, figures)
            | _ => (1, rest)
          match natural? (figures.takeWhile Char.isDigit) with
          | some n => (sign * (min n 5000 : Nat), figures.dropWhile Char.isDigit)
          | none => (0, behind)
        else (0, behind)
      | [] => (0, behind)
    let power := exponent - decimals.length
    some (⟨isNegative, digits * Nat.pow 10 power.toNat, Nat.pow 10 (-power).toNat,
      ((decimals.length : Int) - exponent).toNat⟩, behind)

/-- Reads a whole text as a number. -/
def ofChars? (text : Chars) : Option Decimal :=
  match take? text with
  | some (number, []) => some number
  | _ => none

/-- The quotient of two numbers, rounded to the nearest; a half goes to the even
neighbour. -/
def roundedDiv (a b : Nat) : Nat :=
  let quotient := a / b
  let rest := a % b
  if b < 2 * rest || (2 * rest = b && quotient % 2 = 1) then quotient + 1 else quotient

/-- Digits with zeros in front, up to a width. -/
def padded (width : Nat) (n : Nat) : Chars :=
  let digits := (toString n).toList
  List.replicate (width - digits.length) '0' ++ digits

/-- The size of a number with so many decimals. -/
def fixed (places : Nat) (number : Decimal) : Chars :=
  let scaled := roundedDiv (number.numerator * Nat.pow 10 places) number.denominator
  let whole := (toString (scaled / Nat.pow 10 places)).toList
  if places = 0 then whole else whole ++ '.' :: padded places (scaled % Nat.pow 10 places)

end Decimal

end BrowserBridge.Tool
