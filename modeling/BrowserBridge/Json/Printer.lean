import BrowserBridge.Json.Basic
import BrowserBridge.Number.Shortest
import BrowserBridge.Text.Quoted

/-!
JSON text without spaces.
-/

namespace BrowserBridge.Json

/-- How a number that is no integer is written. -/
structure FloatFormat where
  /-- The exponents of ten of the first digit that need no exponent mark. -/
  leastPlain : Int
  mostPlain : Int
  /-- What stands between the digits and a positive exponent. -/
  mark : String
  /-- What stands between the digits and a negative exponent. -/
  negativeMark : String

/-- Numbers from 0.00001 up to below 10^16 are written without an exponent and
always with a point. -/
def floatFormat : FloatFormat := ⟨-5, 15, "e+", "e-"⟩

def FloatFormat.write (format : FloatFormat) (decimal : Shortest.Decimal) : String :=
  let digits := decimal.digits
  let places := digits.length
  let zeros (n : Nat) := List.replicate n '0'
  if format.leastPlain ≤ decimal.exponent && decimal.exponent ≤ format.mostPlain then
    match decimal.exponent with
    | .negSucc n => String.ofList ("0.".toList ++ zeros n ++ digits)
    | .ofNat n =>
      if places ≤ n + 1 then String.ofList (digits ++ zeros (n + 1 - places) ++ ".0".toList)
      else String.ofList (digits.take (n + 1) ++ ['.'] ++ digits.drop (n + 1))
  else
    let fraction := if places = 1 then [] else '.' :: digits.drop 1
    let significand := String.ofList (digits.take 1 ++ fraction)
    if 0 ≤ decimal.exponent then significand ++ format.mark ++ toString decimal.exponent.toNat
    else significand ++ format.negativeMark ++ toString (-decimal.exponent).toNat

/-- The text of a finite double precision number. -/
def floatText (bits : UInt64) : String :=
  let sign := if Binary64.isNegative bits then "-" else ""
  if Binary64.magnitude bits = 0 then sign ++ "0.0"
  else sign ++ floatFormat.write (Shortest.ofBits bits)

def integerText (n : Int) : String :=
  match n with
  | .ofNat n => String.ofList (Nat.toDigits 10 n)
  | .negSucc n => String.ofList ('-' :: Nat.toDigits 10 (n + 1))

def escapedChar (c : Char) : String :=
  if c = '"' then "\\\""
  else if c = '\\' then "\\\\"
  else if c = '\x08' then "\\b"
  else if c = '\x0c' then "\\f"
  else if c = '\n' then "\\n"
  else if c = '\r' then "\\r"
  else if c = '\t' then "\\t"
  else if c.toNat < 16 then "\\u000" ++ Text.hex c.toNat
  else if c.toNat < 32 then "\\u00" ++ Text.hex c.toNat
  else c.toString

def stringText (text : String) : String :=
  "\"" ++ String.join (text.toList.map escapedChar) ++ "\""

mutual

/-- The text of a value. -/
def render : Json → String
  | null => "null"
  | bool true => "true"
  | bool false => "false"
  | integer n => integerText n
  | float bits => floatText bits
  | string text => stringText text
  | array elements => "[" ++ ",".intercalate (renderElements elements) ++ "]"
  | object members => "\x7b" ++ ",".intercalate (renderMembers members) ++ "\x7d"

def renderElements : List Json → List String
  | [] => []
  | element :: rest => render element :: renderElements rest

def renderMembers : List (String × Json) → List String
  | [] => []
  | (key, value) :: rest => (stringText key ++ ":" ++ render value) :: renderMembers rest

end

end BrowserBridge.Json
