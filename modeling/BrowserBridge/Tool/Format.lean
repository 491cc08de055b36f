import BrowserBridge.Tool.Escape

/-!
Formats with directives that arguments are put in the place of.  The shell and the
system have one reader of formats each, which differ in escapes and complaints.
-/

namespace BrowserBridge.Tool.Format

open Shell (Chars)

structure State where
  args : List Chars
  /-- What was written, last text first. -/
  output : List Chars
  /-- Complaints, last one first. -/
  messages : List Chars
  status : Nat
  /-- Whether nothing more is written. -/
  hasEnded : Bool
  /-- Whether the end was forced by a mistake. -/
  hasFailed : Bool

/-- A step of writing a format out. -/
abbrev Step := StateM State

/-- What a directive says about its place. -/
structure Layout where
  flags : List Char
  width : Nat
  precision : Option Nat

def put (text : Chars) : Step Unit :=
  modify fun state =>
    if state.hasEnded then state else { state with output := text :: state.output }

/-- Complains, and goes on. -/
def complain (message : Chars) : Step Unit :=
  modify fun state =>
    if state.hasEnded then state
    else { state with messages := message :: state.messages, status := 1 }

/-- Complains, and writes nothing more. -/
def refuse (status : Nat) (message : Chars) : Step Unit :=
  modify fun state =>
    if state.hasEnded then state
    else { state with
      messages := message :: state.messages
      status := status
      hasEnded := true
      hasFailed := true }

def next? : Step (Option Chars) := do
  let state ← get
  set { state with args := state.args.tail }
  return state.args.head?

/-- An argument as it stands in complaints. -/
def quoted (isOwn : Bool) (arg : Chars) : Chars :=
  if isOwn then arg else '\'' :: arg ++ ['\'']

/-- Complains about an argument that is no number, or not all of which is. -/
def checkRest (isOwn : Bool) (arg rest : Chars) : Step Unit := do
  if !rest.isEmpty then
    let message :=
      if rest.length = arg.length then
        if isOwn then ": expected numeric value" else ": expected a numeric value"
      else if isOwn then ": not completely converted"
      else ": value not completely converted"
    complain (quoted isOwn arg ++ message.toList)

def takeDigits (base : Nat) (text : Chars) : Nat × Chars :=
  let isDigit (c : Char) : Bool := (hexadecimal? c).any (· < base)
  let (digits, rest) := text.span isDigit
  ((digits.filterMap hexadecimal?).foldl (fun n digit => n * base + digit) 0, rest)

/-- Reads an integer: base sixteen behind `0x`, base eight behind `0`. -/
def takeInteger (text : Chars) : Int × Chars :=
  let body := text.dropWhile fun c => c = ' ' || ('\t' ≤ c && c ≤ '\r')
  let (sign, digits) : Int × Chars := match body with
    | '-' :: rest => (-1, rest)
    | '+' :: rest => (1, rest)
    | _ => (1, body)
  let (n, rest) := match digits with
    | '0' :: x :: c :: rest =>
      if (x = 'x' || x = 'X') && (hexadecimal? c).isSome then takeDigits 16 (c :: rest)
      else takeDigits 8 digits
    | '0' :: _ => takeDigits 8 digits
    | _ => takeDigits 10 digits
  if rest.length = digits.length then (0, text) else (sign * n, rest)

/-- The integer that an argument is.  Behind a quote its character counts. -/
def integer (isOwn isSigned : Bool) : Step Int := do
  match ← next? with
  | none => return 0
  | some arg =>
    let code? := match arg with
      | q :: c :: _ => if q = '\'' || q = '"' then some c.toNat else none
      | [q] => if (q = '\'' || q = '"') && isOwn then some 0 else none
      | [] => none
    match code? with
    | some code => return code
    | none =>
      let (n, rest) := takeInteger arg
      checkRest isOwn arg rest
      let least : Int := if isSigned then -0x8000000000000000 else -0x10000000000000000 + 1
      let greatest : Int := if isSigned then 0x7FFFFFFFFFFFFFFF else 0xFFFFFFFFFFFFFFFF
      if n < least || greatest < n then
        complain (quoted isOwn arg ++ ": Numerical result out of range".toList)
        return if n < least then (if isSigned then least else greatest) else greatest
      else return n

/-- A text in a field of some width. -/
def inField (layout : Layout) (text : Chars) : Chars :=
  let gap := List.replicate (layout.width - text.length) ' '
  if layout.flags.contains '-' then text ++ gap else gap ++ text

/-- A number in a field: its sign or what else stands in front, and its digits. -/
def numberInField (layout : Layout) (allowsZeros : Bool) (front digits : Chars) : Chars :=
  if allowsZeros && layout.flags.contains '0' && !layout.flags.contains '-' then
    front ++ List.replicate (layout.width - front.length - digits.length) '0' ++ digits
  else inField layout (front ++ digits)

def signOf (layout : Layout) (isNegative : Bool) : Chars :=
  if isNegative then ['-']
  else if layout.flags.contains '+' then ['+']
  else if layout.flags.contains ' ' then [' ']
  else []

def digitsIn (base : Nat) (isUpper : Bool) (n : Nat) : Chars :=
  let digits := Nat.toDigits base n
  if isUpper then digits.map Char.toUpper else digits

/-- Digits of a precision: so many at least, and none of zero if none are asked for. -/
def precise (layout : Layout) (digits : Chars) : Chars :=
  match layout.precision with
  | some least =>
    if least = 0 && digits = ['0'] then []
    else List.replicate (least - digits.length) '0' ++ digits
  | none => digits

/-- Writes an argument out by its directive. -/
def convert (isOwn : Bool) (layout : Layout) (conversion : Char) : Step Unit := do
  match conversion with
  | 's' =>
    let arg := (← next?).getD []
    put (inField layout (match layout.precision with
      | some most => arg.take most
      | none => arg))
  | 'c' => put (inField layout [((← next?).getD []).headD '\x00'])
  | 'b' =>
    let arg := (← next?).getD []
    let (text, ends) := unescape (if isOwn then .shellArgument else .argument) arg
    put (inField layout (match layout.precision with
      | some most => text.take most
      | none => text))
    if ends then modify fun state => { state with hasEnded := true }
  | 'd' | 'i' =>
    let n ← integer isOwn true
    put (numberInField layout layout.precision.isNone (signOf layout (n < 0))
      (precise layout (toString n.natAbs).toList))
  | 'u' =>
    let n ← integer isOwn false
    put (numberInField layout layout.precision.isNone []
      (precise layout (toString (n % 0x10000000000000000).toNat).toList))
  | 'o' =>
    let n := ((← integer isOwn false) % 0x10000000000000000).toNat
    let digits := precise layout (digitsIn 8 false n)
    let digits := if layout.flags.contains '#' && digits.head? ≠ some '0' then '0' :: digits
      else digits
    put (numberInField layout layout.precision.isNone [] digits)
  | _ =>
    let n := ((← integer isOwn false) % 0x10000000000000000).toNat
    let front := if layout.flags.contains '#' && n ≠ 0 then ['0', conversion] else []
    put (numberInField layout layout.precision.isNone front
      (precise layout (digitsIn 16 (conversion = 'X') n)))

def conversions : List Char := ['s', 'c', 'b', 'd', 'i', 'u', 'o', 'x', 'X']

/-- Reads a width or a precision: a numeral, or a star for an argument. -/
def takeSize (isOwn : Bool) (text : Chars) : Step (Option Int × Chars) := do
  match text with
  | '*' :: rest => return (some (← integer isOwn true), rest)
  | _ =>
    let (digits, rest) := text.span Char.isDigit
    return ((natural? digits).map fun n => (n : Int), rest)

/-- Writes a directive out; gives what follows it. -/
def directive (isOwn : Bool) (text : Chars) : Step Chars := do
  let (flags, behind) := text.span ['-', '+', ' ', '#', '0'].contains
  let (width, behind) ← takeSize isOwn behind
  let (precision, behind) ← (do
    match behind with
    | '.' :: rest =>
      let (precision, rest) ← takeSize isOwn rest
      return (some (precision.getD 0), rest)
    | _ => return (none, behind) : Step (Option Int × Chars))
  let behind := if isOwn then behind else behind.dropWhile ['h', 'l', 'L', 'j', 't', 'z'].contains
  let shown (rest : Chars) : Chars := '%' :: text.take (text.length - rest.length)
  match behind with
  | [] =>
    if isOwn then refuse 2 "missing format character".toList
    else refuse 1 (shown [] ++ ": invalid conversion specification".toList)
    return []
  | conversion :: rest =>
    if conversions.contains conversion then
      let width := width.getD 0
      let layout : Layout :=
        { flags := if width < 0 then '-' :: flags else flags
          width := width.natAbs
          precision := precision.bind fun n => if n < 0 then none else some n.toNat }
      if !(← get).hasEnded then convert isOwn layout conversion
    else if isOwn then refuse 2 (shown rest ++ ": invalid directive".toList)
    else refuse 1 (shown rest ++ ": invalid conversion specification".toList)
    return rest

/-- Writes a format out once; `fuel` bounds the steps. -/
def once (isOwn : Bool) : (fuel : Nat) → Chars → Step Unit
  | 0, _ => return ()
  | _ + 1, [] => return ()
  | fuel + 1, '\\' :: rest => do
    match (if isOwn then EscapeRule.shellFormat else .format).read rest with
    | .text chars behind =>
      put chars
      once isOwn fuel behind
    | .ends => modify fun state => { state with hasEnded := true }
    | .broken => refuse 1 "missing hexadecimal number in escape".toList
  | fuel + 1, '%' :: '%' :: rest => do
    put ['%']
    once isOwn fuel rest
  | fuel + 1, '%' :: rest => do
    once isOwn fuel (← directive isOwn rest)
  | fuel + 1, c :: rest => do
    put [c]
    once isOwn fuel rest

/-- Writes a format out again and again, as long as it takes arguments; `fuel` bounds
how often. -/
def repeated (isOwn : Bool) (format : Chars) : (fuel : Nat) → Step Unit
  | 0 => return ()
  | fuel + 1 => do
    let before := (← get).args.length
    once isOwn (format.length + 1) format
    let state ← get
    if !state.hasEnded && !state.args.isEmpty then
      if state.args.length < before then repeated isOwn format fuel
      else if !isOwn then
        modify fun state =>
          { state with
            messages := ("warning: ignoring excess arguments, starting with '".toList ++
              state.args.headD [] ++ ['\'']) :: state.messages }

/-- What a format with its arguments came to. -/
structure Result where
  output : Chars
  messages : List Chars
  status : Nat
  /-- Whether a mistake ended it. -/
  hasFailed : Bool

/-- Writes a format out with its arguments.  `isOwn` says whether the shell's own reader
of formats does that. -/
def run (isOwn : Bool) (format : Chars) (args : List Chars) : Result :=
  let (_, state) := (repeated isOwn format (args.length + 1)).run ⟨args, [], [], 0, false, false⟩
  ⟨state.output.reverse.flatten, state.messages.reverse, state.status, state.hasFailed⟩

def tool (input : Input) : Outcome :=
  let args := match input.args with
    | ['-', '-'] :: rest => rest
    | args => args
  match args with
  | [] => misused input 1 "missing operand"
  | format :: args =>
    let result := run false format args
    ⟨result.output, result.messages.flatMap fun message => complaint input (String.ofList message),
      result.status, false⟩

end BrowserBridge.Tool.Format
