import BrowserBridge.Shell.Syntax

/-!
Patterns of the shell: a star stands for any text, a question mark for any character,
and brackets for one of several characters.
-/

namespace BrowserBridge.Shell

/-- A character of a pattern, or of a word that becomes fields; a quoted one stands for
itself. -/
structure Letter where
  char : Char
  isQuoted : Bool
  deriving DecidableEq

/-- What a pattern asks for next. -/
inductive Ask where
  | char (c : Char)
  | any
  | many
  /-- A character of one of some ranges, or of none of them. -/
  | oneOf (isNegated : Bool) (ranges : List (Char × Char))

/-- Reads what stands in brackets, up to the closing one, and how many characters that
takes.  A closing bracket stands for itself in front. -/
def takeBracket : (fuel : Nat) → (isFirst : Bool) → List Letter →
    Option (List (Char × Char) × List Letter)
  | 0, _, _ => none
  | _ + 1, _, [] => none
  | fuel + 1, isFirst, ⟨c, isQuoted⟩ :: rest =>
    if c = ']' && !isQuoted && !isFirst then some ([], rest)
    else
      match rest with
      | ⟨'-', false⟩ :: ⟨last, lastQuoted⟩ :: behind =>
        if last = ']' && !lastQuoted then
          (takeBracket fuel false rest).map fun (all, left) => ((c, c) :: all, left)
        else (takeBracket fuel false behind).map fun (all, left) => ((c, last) :: all, left)
      | _ => (takeBracket fuel false rest).map fun (all, left) => ((c, c) :: all, left)

/-- What a pattern asks for; `fuel` bounds the steps. -/
def askFrom : (fuel : Nat) → List Letter → List Ask
  | 0, _ => []
  | _ + 1, [] => []
  | fuel + 1, ⟨c, isQuoted⟩ :: rest =>
    if isQuoted then .char c :: askFrom fuel rest
    else if c = '*' then .many :: askFrom fuel rest
    else if c = '?' then .any :: askFrom fuel rest
    else if c = '[' then
      let (isNegated, inner) := match rest with
        | ⟨'!', false⟩ :: inner => (true, inner)
        | _ => (false, rest)
      match takeBracket (inner.length + 1) true inner with
      | some (ranges, behind) => .oneOf isNegated ranges :: askFrom fuel behind
      | none => .char '[' :: askFrom fuel rest
    else
      match c, rest with
      | '\\', escaped :: behind => .char escaped.char :: askFrom fuel behind
      | _, _ => .char c :: askFrom fuel rest

def asks (pattern : List Letter) : List Ask := askFrom (pattern.length + 1) pattern

/-- The ends of a text, from the whole of it to nothing. -/
def suffixes : Chars → List Chars
  | [] => [[]]
  | c :: rest => (c :: rest) :: suffixes rest

/-- Whether a text is all that a pattern asks for. -/
def satisfies : List Ask → Chars → Bool
  | [], text => text.isEmpty
  | .many :: rest, text => (suffixes text).any (satisfies rest)
  | .any :: rest, _ :: text => satisfies rest text
  | .char c :: rest, d :: text => c = d && satisfies rest text
  | .oneOf isNegated ranges :: rest, c :: text =>
    ranges.any (fun (first, last) => first ≤ c && c ≤ last) ≠ isNegated && satisfies rest text
  | _ :: _, [] => false

def isMatch (pattern : List Letter) (text : Chars) : Bool := satisfies (asks pattern) text

/-- A text without what a pattern matches at one end.  NUL characters stand between
arguments, and a pattern sees nothing from the first of them on. -/
def trimmed (side : Side) (isLongest : Bool) (pattern : List Letter) (text : Chars) : Chars :=
  let isHit (piece : Chars) : Bool := isMatch pattern (piece.takeWhile (· ≠ '\x00'))
  let lengths := List.range (text.length + 1)
  let lengths := if isLongest then lengths.reverse else lengths
  match side with
  | .front =>
    match lengths.find? fun n => isHit (text.take n) with
    | some n => text.drop n
    | none => text
  | .back =>
    match lengths.find? fun n => isHit (text.drop (text.length - n)) with
    | some n => text.take (text.length - n)
    | none => text

end BrowserBridge.Shell
