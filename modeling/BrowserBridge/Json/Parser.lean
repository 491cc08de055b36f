import BrowserBridge.Json.Basic
import BrowserBridge.Number.Binary64
import BrowserBridge.Text.Numeral

/-!
Reading JSON text.  A number without a fraction and an exponent that fits 64 bits
stays an integer; every other number is scaled by powers of ten from the digits
that fit 64 bits, so its last bit may differ from the nearest number's.
-/

namespace BrowserBridge.Json

def skipBlanks (text : List Char) : List Char :=
  text.dropWhile fun c => c = ' ' || c = '\n' || c = '\r' || c = '\t'

def takeDigits (text : List Char) : List Nat × List Char :=
  let (front, back) := text.span fun c => (Text.digit? c).isSome
  (front.filterMap Text.digit?, back)

/-- Appends digits to a significand as long as it stays below 2^64, and counts
those appended and those left over. -/
def appendDigits (significand : Nat) : List Nat → Nat × Nat × Nat
  | [] => (significand, 0, 0)
  | digit :: rest =>
    let next := significand * 10 + digit
    if next < 0x10000000000000000 then
      let (total, appended, left) := appendDigits next rest
      (total, appended + 1, left)
    else (significand, 0, rest.length + 1)

/-- Scales a number that is not negative by a power of ten.  A power beyond the
largest finite one is divided by in steps; there is no result beyond the largest
finite number. -/
def scale (bits : UInt64) : Int → Option UInt64
  | .ofNat n =>
    if n ≤ 308 then
      let product := Binary64.mul bits (Binary64.ofNat (Nat.pow 10 n))
      if product = Binary64.infinity then none else some product
    else if bits = 0 then some bits else none
  | .negSucc n => some (shrink bits (n + 1))
where
  /-- Divides by a power of ten. -/
  shrink (bits : UInt64) (n : Nat) : UInt64 :=
    if n ≤ 308 then Binary64.div bits (Binary64.ofNat (Nat.pow 10 n))
    else if bits = 0 then bits
    else shrink (Binary64.div bits (Binary64.ofNat (Nat.pow 10 308))) (n - 308)
  termination_by n

def takeExponent (text : List Char) : Option (Int × List Char) :=
  match text with
  | c :: rest =>
    if c = 'e' || c = 'E' then
      let (negative, rest) := match rest with
        | '+' :: rest => (false, rest)
        | '-' :: rest => (true, rest)
        | rest => (false, rest)
      let (digits, rest) := takeDigits rest
      if digits.isEmpty then none
      else
        let n : Nat := digits.foldl (fun n digit => n * 10 + digit) 0
        some (if negative then -Int.ofNat n else Int.ofNat n, rest)
    else some (0, text)
  | [] => some (0, text)

def number (text : List Char) : Option (Json × List Char) := do
  let (negative, text) := match text with
    | '-' :: rest => (true, rest)
    | rest => (false, rest)
  let (whole, text) := takeDigits text
  if whole.isEmpty || (whole.head? = some 0 && whole.length ≠ 1) then none
  else
    let (significand, _, dropped) := appendDigits 0 whole
    let (fraction, text) ← match text with
      | '.' :: rest =>
        let (digits, rest) := takeDigits rest
        if digits.isEmpty then none else some (some digits, rest)
      | rest => some (none, rest)
    let (significand, appended, _) := appendDigits significand (fraction.getD [])
    let hasExponent := text.head? = some 'e' || text.head? = some 'E'
    let (exponent, text) ← takeExponent text
    let isInteger := fraction.isNone && !hasExponent && dropped = 0 &&
      (if negative then significand ≠ 0 && significand ≤ 0x8000000000000000 else true)
    if isInteger then
      return (integer (if negative then -significand else significand), text)
    else
      let bits ← scale (Binary64.ofNat significand) (exponent + dropped - appended)
      return (float (if negative then Binary64.negate bits else bits), text)

def hexDigit? (c : Char) : Option Nat :=
  if '0' ≤ c && c ≤ '9' then some (c.toNat - 48)
  else if 'a' ≤ c && c ≤ 'f' then some (c.toNat - 87)
  else if 'A' ≤ c && c ≤ 'F' then some (c.toNat - 55)
  else none

/-- Reads four hexadecimal digits. -/
def hexUnit : List Char → Option (Nat × List Char)
  | a :: b :: c :: d :: rest => do
    return (((← hexDigit? a) * 16 + (← hexDigit? b)) * 256 + (← hexDigit? c) * 16
      + (← hexDigit? d), rest)
  | _ => none

/-- Reads what follows the backslash of an escape.  A surrogate needs its
partner. -/
def escape : List Char → Option (Char × List Char)
  | '"' :: rest => some ('"', rest)
  | '\\' :: rest => some ('\\', rest)
  | '/' :: rest => some ('/', rest)
  | 'b' :: rest => some ('\x08', rest)
  | 'f' :: rest => some ('\x0c', rest)
  | 'n' :: rest => some ('\n', rest)
  | 'r' :: rest => some ('\r', rest)
  | 't' :: rest => some ('\t', rest)
  | 'u' :: rest => do
    let (unit, rest) ← hexUnit rest
    if unit < 0xD800 || 0xDFFF < unit then return (Char.ofNat unit, rest)
    else if unit < 0xDC00 then
      match rest with
      | '\\' :: 'u' :: rest =>
        let (low, rest) ← hexUnit rest
        if 0xDC00 ≤ low && low ≤ 0xDFFF then
          return (Char.ofNat (0x10000 + (unit - 0xD800) * 1024 + (low - 0xDC00)), rest)
        else none
      | _ => none
    else none
  | _ => none

/-- Reads a string behind its first quote; `fuel` bounds the characters. -/
def string? : (fuel : Nat) → List Char → (reversed : List Char) → Option (String × List Char)
  | 0, _, _ => none
  | fuel + 1, text, reversed =>
    match text with
    | '"' :: rest => some (String.ofList reversed.reverse, rest)
    | '\\' :: rest => do
      let (c, rest) ← escape rest
      string? fuel rest (c :: reversed)
    | c :: rest => if c.toNat < 32 then none else string? fuel rest (c :: reversed)
    | [] => none

mutual

/-- Reads a value; `fuel` bounds the tokens. -/
def value? : (fuel : Nat) → List Char → Option (Json × List Char)
  | 0, _ => none
  | fuel + 1, text =>
    match skipBlanks text with
    | 'n' :: 'u' :: 'l' :: 'l' :: rest => some (null, rest)
    | 't' :: 'r' :: 'u' :: 'e' :: rest => some (bool true, rest)
    | 'f' :: 'a' :: 'l' :: 's' :: 'e' :: rest => some (bool false, rest)
    | '"' :: rest => (string? fuel rest []).map fun (text, rest) => (string text, rest)
    | '[' :: rest =>
      match skipBlanks rest with
      | ']' :: rest => some (array [], rest)
      | rest => (elements? fuel rest []).map fun (elements, rest) => (array elements, rest)
    | '\x7b' :: rest =>
      match skipBlanks rest with
      | '\x7d' :: rest => some (object [], rest)
      | rest => (members? fuel rest []).map fun (members, rest) => (ofMembers members, rest)
    | rest => number rest

/-- Reads the elements of an array up to its end. -/
def elements? : (fuel : Nat) → List Char → (reversed : List Json) →
    Option (List Json × List Char)
  | 0, _, _ => none
  | fuel + 1, text, reversed => do
    let (element, rest) ← value? fuel text
    match skipBlanks rest with
    | ',' :: rest => elements? fuel rest (element :: reversed)
    | ']' :: rest => return ((element :: reversed).reverse, rest)
    | _ => none

/-- Reads the members of an object up to its end. -/
def members? : (fuel : Nat) → List Char → (reversed : List (String × Json)) →
    Option (List (String × Json) × List Char)
  | 0, _, _ => none
  | fuel + 1, text, reversed => do
    match skipBlanks text with
    | '"' :: rest =>
      let (key, rest) ← string? fuel rest []
      match skipBlanks rest with
      | ':' :: rest =>
        let (value, rest) ← value? fuel rest
        match skipBlanks rest with
        | ',' :: rest => members? fuel rest ((key, value) :: reversed)
        | '\x7d' :: rest => return (((key, value) :: reversed).reverse, rest)
        | _ => none
      | _ => none
    | _ => none

end

def parse? (text : String) : Option Json := do
  let (value, rest) ← value? (2 * text.length + 2) text.toList
  if (skipBlanks rest).isEmpty then return value else none

end BrowserBridge.Json
