import BrowserBridge.Tool.Decimal

/-!
Sequences of numbers.
-/

namespace BrowserBridge.Tool.Sequence

open Shell (Chars)

/-- A number in units of its last place, of so many. -/
def scaled (places : Nat) (number : Decimal) : Int :=
  let n : Int := (number.numerator * Nat.pow 10 places / number.denominator : Nat)
  if number.isNegative then -n else n

/-- A number of such units with so many decimals. -/
def written (places : Nat) (n : Int) : Chars :=
  let decimal : Decimal := ⟨n < 0, n.natAbs, Nat.pow 10 places, places⟩
  (if n < 0 then ['-'] else []) ++ decimal.fixed places

/-- The numbers from the first to the last one; `fuel` bounds how many. -/
def numbers (step last : Int) : (fuel : Nat) → (first : Int) → List Int
  | 0, _ => []
  | fuel + 1, first =>
    if (0 < step && last < first) || (step < 0 && first < last) then []
    else first :: numbers step last fuel (first + step)

def tool (input : Input) : Outcome :=
  let write (first step last : Decimal) : Outcome :=
    if step.numerator = 0 then
      misused input 1 ("invalid Zero increment value: '" ++
        String.ofList ((input.args.drop 1).headD []) ++ "'")
    else
      let places := max first.places step.places
      let units := max places last.places
      let scale := Nat.pow 10 (units - places)
      let all := (numbers (scaled units step) (scaled units last)
        ((scaled units last - scaled units first).natAbs + 1) (scaled units first)).map
          fun n => n / (scale : Int)
      if all.isEmpty then quiet 0
      else writes (['\n'].intercalate (all.map (written places)) ++ ['\n'])
  let one : Decimal := ⟨false, 1, 1, 0⟩
  match input.args.find? fun operand => (Decimal.ofChars? operand).isNone with
  | some bad =>
    misused input 1 ("invalid floating point argument: '" ++ String.ofList bad ++ "'")
  | none =>
    match input.args.filterMap Decimal.ofChars? with
    | [] => misused input 1 "missing operand"
    | [last] => write one one last
    | [first, last] => write first one last
    | [first, step, last] => write first step last
    | _ =>
      misused input 1 ("extra operand '" ++ String.ofList ((input.args.drop 3).headD []) ++ "'")

end BrowserBridge.Tool.Sequence
