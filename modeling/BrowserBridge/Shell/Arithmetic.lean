import BrowserBridge.Shell.Syntax

/-!
Arithmetic of the shell: integers of 64 bits, with the operators of expressions, and
variables that can be set.  An expression is worked out while it is read, so that of
two mistakes the first one counts.
-/

namespace BrowserBridge.Shell.Arithmetic

def wrap (n : Int) : Int := n.bmod 0x10000000000000000

inductive Token where
  | number (n : Int)
  | name (chars : Chars)
  | operator (text : String)
  deriving DecidableEq

/-- The operators; of two that begin alike the longer stands first. -/
def operators : List String :=
  ["<<=", ">>=", "<<", ">>", "<=", ">=", "==", "!=", "&&", "||", "+=", "-=", "*=", "/=", "%=",
   "&=", "^=", "|=", "+", "-", "*", "/", "%", "<", ">", "&", "^", "|", "!", "~", "?", ":", "=",
   "(", ")"]

def digit? (base : Nat) (c : Char) : Option Nat :=
  let value :=
    if c.isDigit then c.toNat - '0'.toNat
    else if 'a' ≤ c && c ≤ 'f' then c.toNat - 'a'.toNat + 10
    else if 'A' ≤ c && c ≤ 'F' then c.toNat - 'A'.toNat + 10
    else base
  if value < base then some value else none

def takeDigits (base : Nat) (text : Chars) : Nat × Chars :=
  let (digits, rest) := text.span fun c => (digit? base c).isSome
  ((digits.filterMap (digit? base)).foldl (fun n digit => n * base + digit) 0, rest)

/-- Reads a number without a sign: in base sixteen behind `0x`, in base eight behind
`0`, else in base ten. -/
def takeNumber (text : Chars) : Nat × Chars :=
  match text with
  | '0' :: 'x' :: c :: rest =>
    if (digit? 16 c).isSome then takeDigits 16 (c :: rest) else (0, 'x' :: c :: rest)
  | '0' :: 'X' :: c :: rest =>
    if (digit? 16 c).isSome then takeDigits 16 (c :: rest) else (0, 'X' :: c :: rest)
  | '0' :: _ => takeDigits 8 text
  | _ => takeDigits 10 text

def greatest : Int := 0x7FFFFFFFFFFFFFFF

/-- Splits an expression into tokens, to its end or to the first character that begins
none; `fuel` bounds how many. -/
def tokens : (fuel : Nat) → Chars → List Token
  | 0, _ => []
  | _ + 1, [] => []
  | fuel + 1, c :: rest =>
    if c = ' ' || c = '\t' || c = '\n' then tokens fuel rest
    else if c.isDigit then
      let (n, behind) := takeNumber (c :: rest)
      .number (min n greatest) :: tokens fuel behind
    else if isNameStart c then
      let (name, behind) := (c :: rest).span isNameChar
      .name name :: tokens fuel behind
    else
      match operators.find? fun operator => operator.toList.isPrefixOf (c :: rest) with
      | some operator =>
        .operator operator :: tokens fuel ((c :: rest).drop operator.length)
      | none => [.operator "bad"]

/-- The value of a variable as a number, if its text is one: blanks around it are
dropped, and nothing counts as zero. -/
def ofText? (text : Chars) : Option Int :=
  let isBlank := fun c => c = ' ' || ('\t' ≤ c && c ≤ '\r')
  let body := text.dropWhile isBlank
  let (sign, digits) : Int × Chars := match body with
    | '-' :: rest => (-1, rest)
    | '+' :: rest => (1, rest)
    | _ => (1, body)
  if body.isEmpty then some 0
  else if !digits.head?.any Char.isDigit then none
  else
    let (n, rest) := takeNumber digits
    let value := sign * n
    let isWithin := -0x8000000000000000 ≤ value && value ≤ greatest
    if rest.all isBlank && isWithin then some value else none

/-- Why an expression has no value. -/
inductive Fault where
  /-- A mistake in the expression. -/
  | expression (message : String)
  /-- A variable that is no number. -/
  | notNumber (text : Chars)
  deriving DecidableEq

/-- An expression in the middle of being worked out. -/
structure State where
  rest : List Token
  /-- The variables that it has set, last one first. -/
  assigned : List (Chars × Int)

/-- Working out an expression; the variables are looked up by a function. -/
abbrev Work := ReaderT (Chars → Chars) (StateT State (Except Fault))

/-- Gives a mistake up. -/
def fail {α : Type} (message : String) : Work α := throw (.expression message)

def next : Work (Option Token) := do
  let state ← get
  set { state with rest := state.rest.tail }
  return state.rest.head?

def peek : Work (Option Token) := do return (← get).rest.head?

def valueOf (name : Chars) : Work Int := do
  match (← get).assigned.lookup name with
  | some value => return value
  | none =>
    let text := (← read) name
    match ofText? text with
    | some value => return value
    | none => throw (.notNumber text)

/-- How strongly an operator binds; a lower number binds more. -/
def level? (operator : String) : Option Nat :=
  match operator with
  | "*" | "/" | "%" => some 0
  | "+" | "-" => some 1
  | "<<" | ">>" => some 2
  | "<" | "<=" | ">" | ">=" => some 3
  | "==" | "!=" => some 4
  | "&" => some 5
  | "^" => some 6
  | "|" => some 7
  | _ => none

/-- The bits of a number, read without a sign. -/
def bits (n : Int) : Nat := (n % 0x10000000000000000).toNat

/-- A truth value as a number. -/
def ofBool (b : Bool) : Int := if b then 1 else 0

def combine (operator : String) (a b : Int) : Work Int := do
  match operator with
  | "*" => return wrap (a * b)
  | "/" => if b = 0 then fail "division by zero" else return wrap (a.tdiv b)
  | "%" => if b = 0 then fail "division by zero" else return wrap (a.tmod b)
  | "+" => return wrap (a + b)
  | "-" => return wrap (a - b)
  | "<<" => return wrap (a * Nat.pow 2 (bits b % 64))
  | ">>" => return a / Nat.pow 2 (bits b % 64)
  | "<" => return ofBool (a < b)
  | "<=" => return ofBool (a ≤ b)
  | ">" => return ofBool (b < a)
  | ">=" => return ofBool (b ≤ a)
  | "==" => return ofBool (a = b)
  | "!=" => return ofBool (a ≠ b)
  | "&" => return wrap (bits a &&& bits b : Nat)
  | "^" => return wrap (bits a ^^^ bits b : Nat)
  | _ => return wrap (bits a ||| bits b : Nat)

/-- The operator that an assignment applies first. -/
def assigning? (operator : String) : Option String :=
  match operator with
  | "=" => some ""
  | "+=" => some "+"
  | "-=" => some "-"
  | "*=" => some "*"
  | "/=" => some "/"
  | "%=" => some "%"
  | "<<=" => some "<<"
  | ">>=" => some ">>"
  | "&=" => some "&"
  | "^=" => some "^"
  | "|=" => some "|"
  | _ => none

mutual

/-- Works out an expression with an assignment in front; where `isIdle` is set its value
does not count.  `fuel` bounds the steps. -/
def assignment : (fuel : Nat) → (isIdle : Bool) → Work Int
  | 0, _ => fail "expecting primary"
  | fuel + 1, isIdle => do
    match (← get).rest with
    | .name name :: .operator operator :: _ =>
      match assigning? operator with
      | some first =>
        discard next
        discard next
        let value ← assignment fuel isIdle
        if isIdle then return value
        else
          let value ← if first.isEmpty then pure value else do
            combine first (← valueOf name) value
          modify fun state => { state with assigned := (name, value) :: state.assigned }
          return value
      | none => conditional fuel isIdle
    | _ => conditional fuel isIdle

/-- Works out a choice between two values. -/
def conditional : (fuel : Nat) → (isIdle : Bool) → Work Int
  | 0, _ => fail "expecting primary"
  | fuel + 1, isIdle => do
    let test ← disjunction fuel isIdle
    match ← peek with
    | some (.operator "?") =>
      discard next
      let first ← assignment fuel (isIdle || test = 0)
      match ← next with
      | some (.operator ":") =>
        let second ← conditional fuel (isIdle || test ≠ 0)
        return if test ≠ 0 then first else second
      | _ => fail "expecting ':'"
    | _ => return test

/-- Works out truth values of which one has to hold. -/
def disjunction : (fuel : Nat) → (isIdle : Bool) → Work Int
  | 0, _ => fail "expecting primary"
  | fuel + 1, isIdle => do
    let first ← conjunction fuel isIdle
    match ← peek with
    | some (.operator "||") =>
      discard next
      let second ← disjunction fuel (isIdle || first ≠ 0)
      return ofBool (first ≠ 0 || second ≠ 0)
    | _ => return first

/-- Works out truth values that all have to hold. -/
def conjunction : (fuel : Nat) → (isIdle : Bool) → Work Int
  | 0, _ => fail "expecting primary"
  | fuel + 1, isIdle => do
    let first ← primary fuel isIdle
    let first ← binary fuel isIdle 8 first
    match ← peek with
    | some (.operator "&&") =>
      discard next
      let second ← conjunction fuel (isIdle || first = 0)
      return ofBool (first ≠ 0 && second ≠ 0)
    | _ => return first

/-- Works out operators that bind more than a level, from their first operand. -/
def binary : (fuel : Nat) → (isIdle : Bool) → (limit : Nat) → (first : Int) → Work Int
  | 0, _, _, _ => fail "expecting primary"
  | fuel + 1, isIdle, limit, first => do
    match ← peek with
    | some (.operator operator) =>
      match level? operator with
      | some level =>
        if level < limit then
          discard next
          let second ← primary fuel isIdle
          let second ← binary fuel isIdle level second
          let value ← if isIdle then pure second else combine operator first second
          binary fuel isIdle limit value
        else return first
      | none => return first
    | _ => return first

/-- Works out a number, a variable, or an expression with a sign or in parentheses. -/
def primary : (fuel : Nat) → (isIdle : Bool) → Work Int
  | 0, _ => fail "expecting primary"
  | fuel + 1, isIdle => do
    match ← next with
    | some (.number n) => return n
    | some (.name name) => if isIdle then return 0 else valueOf name
    | some (.operator "(") =>
      let value ← assignment fuel isIdle
      match ← next with
      | some (.operator ")") => return value
      | _ => fail "expecting ')'"
    | some (.operator "+") => primary fuel isIdle
    | some (.operator "-") => return wrap (-(← primary fuel isIdle))
    | some (.operator "!") => return ofBool ((← primary fuel isIdle) = 0)
    | some (.operator "~") => return wrap (-(← primary fuel isIdle) - 1)
    | _ => fail "expecting primary"

end

/-- The value of an expression, and the variables that it sets, first one first. -/
def evaluate (look : Chars → Chars) (text : Chars) :
    Except Fault (Int × List (Chars × Int)) := do
  let work : Work Int := do
    let value ← assignment (10 * text.length + 10) false
    if (← get).rest.isEmpty then return value else fail "expecting EOF"
  let (value, state) ← (work.run look).run ⟨tokens (text.length + 1) text, []⟩
  return (value, state.assigned.reverse)

end BrowserBridge.Shell.Arithmetic
