/-!
Spans of time in whole nanoseconds, up to the greatest that 64-bit seconds and
their fraction hold.
-/

namespace BrowserBridge

/-- A span of time. -/
structure Duration where
  nanos : Nat
  fits : nanos < 0x10000000000000000 * 1000000000 := by decide
  deriving DecidableEq

namespace Duration

def zero : Duration := ⟨0, by decide⟩

def ofMillis (ms : UInt64) : Duration :=
  ⟨ms.toNat * 1000000, by have := ms.toNat_lt; omega⟩

/-- Whole seconds with nanoseconds, unless there are too many. -/
def ofParts? (seconds nanos : Nat) : Option Duration :=
  if h : seconds * 1000000000 + nanos < 0x10000000000000000 * 1000000000 then some ⟨_, h⟩
  else none

def seconds (span : Duration) : Nat := span.nanos / 1000000000

/-- The nanoseconds beside the whole seconds. -/
def subsecond (span : Duration) : Nat := span.nanos % 1000000000

/-- The whole milliseconds of a span, as far as 64 bits go. -/
def millis (span : Duration) : UInt64 :=
  UInt64.ofNat (min (span.nanos / 1000000) 0xFFFFFFFFFFFFFFFF)

/-- A multiple of a span, unless it is too long.  Its seconds and its nanoseconds are
multiplied apart, and whole seconds among the nanoseconds are carried. -/
def times? (span : Duration) (factor : UInt32) : Option Duration :=
  let fraction := span.subsecond * factor.toNat
  ofParts? (span.seconds * factor.toNat + fraction / 1000000000) (fraction % 1000000000)

def min (a b : Duration) : Duration := if a.nanos ≤ b.nanos then a else b

/-- A number with the decimal places that `fraction` counts in `10 ^ places`-ths,
without trailing zeros. -/
private def withPlaces (whole fraction places : Nat) : String :=
  let digits := Nat.toDigits 10 fraction
  let padded := List.replicate (places - digits.length) '0' ++ digits
  let kept := (padded.reverse.dropWhile (· == '0')).reverse
  toString whole ++ (if kept.isEmpty then "" else "." ++ String.ofList kept)

/-- How a span is described: in its greatest unit that is not zero. -/
def describe (span : Duration) : String :=
  if 1000000000 ≤ span.nanos then
    withPlaces (span.nanos / 1000000000) (span.nanos % 1000000000) 9 ++ "s"
  else if 1000000 ≤ span.nanos then
    withPlaces (span.nanos / 1000000) (span.nanos % 1000000) 6 ++ "ms"
  else if 1000 ≤ span.nanos then withPlaces (span.nanos / 1000) (span.nanos % 1000) 3 ++ "µs"
  else toString span.nanos ++ "ns"

end Duration

end BrowserBridge
