import BrowserBridge.Tool.Basic

/-!
Conditions on texts, numbers and files.  Words are read from the front, and what a word
means depends on how many follow it.
-/

namespace BrowserBridge.Tool.Condition

open Shell (Chars Node)

/-- What is asked for about files: what a path leads to, and whether that is not empty. -/
abbrev Look := Chars → Option (Node × Bool)

/-- What a word can be. -/
inductive Kind where
  | unary
  | binary
  | negation
  | conjunction
  | disjunction
  | opening
  | closing
  deriving DecidableEq

/-- The operator that a word is. -/
def kind? (word : Chars) : Option Kind :=
  match String.ofList word with
  | "-r" | "-w" | "-x" | "-e" | "-f" | "-d" | "-s" | "-z" | "-n" => some .unary
  | "=" | "==" | "!=" | "<" | ">" | "-eq" | "-ne" | "-ge" | "-gt" | "-le" | "-lt" => some .binary
  | "!" => some .negation
  | "-a" => some .conjunction
  | "-o" => some .disjunction
  | "(" => some .opening
  | ")" => some .closing
  | _ => none

/-- What stands in front of some words. -/
inductive Front where
  | ended
  | operand
  | operator (kind : Kind)
  deriving DecidableEq

/-- What stands in front of some words: an operator before one operand is only that if
it is not an operand of the next one. -/
def front : List Chars → Front
  | [] => .ended
  | word :: rest =>
    match kind? word with
    | none => .operand
    | some .unary =>
      match rest with
      | [] => .operand
      | [_] => .operator .unary
      | next :: _ => if kind? next = some .binary then .operand else .operator .unary
    | some .opening => if rest.isEmpty then .operand else .operator .opening
    | some kind => .operator kind

inductive Fault where
  | notNumber (word : Chars)
  | needy (operator : Chars)
  | unclosed
  /-- A word that something follows that does not belong to it. -/
  | unexpected (word : Chars)
  deriving DecidableEq

/-- Working out a condition; the words are those from the current one on. -/
abbrev Work := StateT (List Chars) (Except Fault)

def number (word : Chars) : Work Int := do
  let isBlank := fun c => c = ' ' || ('\t' ≤ c && c ≤ '\r')
  let body := ((word.dropWhile isBlank).reverse.dropWhile isBlank).reverse
  match integer? body with
  | some n =>
    if -0x8000000000000000 ≤ n && n < 0x8000000000000000 then return n
    else throw (.notNumber word)
  | none => throw (.notNumber word)

def aboutFile (look : Look) (operator : String) (path : Chars) : Bool :=
  match look path, operator with
  | none, _ => false
  | some (.folder, _), "-d" => true
  | some (node, _), "-f" =>
    match node with
    | .file _ | .program _ => true
    | _ => false
  | some (node, hasContent), "-s" =>
    match node with
    | .folder | .program _ => true
    | _ => hasContent
  | some (node, _), "-x" =>
    match node with
    | .folder | .program _ => true
    | _ => false
  | some _, operator => ["-e", "-r", "-w"].contains operator

def unary (look : Look) (operator operand : Chars) : Work Bool := do
  match String.ofList operator with
  | "-z" => return operand.isEmpty
  | "-n" => return !operand.isEmpty
  | text => return aboutFile look text operand

def binary (first operator second : Chars) : Work Bool := do
  let compare (holds : Int → Int → Bool) : Work Bool := do
    let a ← number first
    let b ← number second
    return holds a b
  match String.ofList operator with
  | "=" | "==" => return first = second
  | "!=" => return first ≠ second
  | "<" => return String.ofList first < String.ofList second
  | ">" => return String.ofList second < String.ofList first
  | "-eq" => compare fun a b => a = b
  | "-ne" => compare fun a b => a ≠ b
  | "-ge" => compare fun a b => b ≤ a
  | "-gt" => compare fun a b => b < a
  | "-le" => compare fun a b => a ≤ b
  | _ => compare fun a b => a < b

/-- Goes on by so many words. -/
def advance (count : Nat) : Work Unit := modify (·.drop count)

mutual

/-- Whether one of several conditions holds; `fuel` bounds the steps. -/
def disjunction (look : Look) : (fuel : Nat) → Work Bool
  | 0 => return false
  | fuel + 1 => do
    let first ← conjunction look fuel
    if front ((← get).drop 1) = .operator .disjunction then
      advance 2
      let others ← disjunction look fuel
      return first || others
    else return first

def conjunction (look : Look) : (fuel : Nat) → Work Bool
  | 0 => return false
  | fuel + 1 => do
    let first ← negation look fuel
    if front ((← get).drop 1) = .operator .conjunction then
      advance 2
      let others ← conjunction look fuel
      return first && others
    else return first

/-- Whether a condition holds that may be negated. -/
def negation (look : Look) : (fuel : Nat) → Work Bool
  | 0 => return false
  | fuel + 1 => do
    let words ← get
    if front words = .operator .negation then
      if front (words.drop 1) = .ended then return true
      else
        advance 1
        return !(← negation look fuel)
    else primary look fuel

/-- Whether a condition without operators between conditions holds. -/
def primary (look : Look) : (fuel : Nat) → Work Bool
  | 0 => return false
  | fuel + 1 => do
    let words ← get
    match front words, words with
    | .ended, _ => return false
    | .operator .opening, _ =>
      advance 1
      if front (words.drop 1) = .operator .closing then return false
      else
        let inner ← disjunction look fuel
        advance 1
        if front (← get) = .operator .closing then return inner else throw .unclosed
    | .operator .unary, operator :: operand :: _ =>
      advance 1
      unary look operator operand
    | _, first :: operator :: rest =>
      if front (operator :: rest) = .operator .binary then
        match rest with
        | [] => throw (.needy operator)
        | second :: _ =>
          advance 2
          binary first operator second
      else return !first.isEmpty
    | _, first :: _ => return !first.isEmpty
    | _, [] => return false

end

/-- Whether the words of a condition hold.  Of three words the second one may be an
operator whatever the others are; else parentheses and a negation around few words are
taken away first. -/
def holds (look : Look) : (fuel : Nat) → List Chars → Except Fault Bool
  | 0, _ => .ok false
  | _ + 1, [] => .ok false
  | fuel + 1, words => do
    let whole : Except Fault Bool := do
      let (result, left) ← (disjunction look (4 * words.length + 4)).run words
      match left with
      | word :: _ :: _ => throw (.unexpected word)
      | _ => return result
    let isFew := words.length = 3 || words.length = 4
    match words with
    | [first, operator, second] =>
      if kind? operator = some .binary then
        let (result, _) ← (binary first operator second).run []
        return result
      else if first = ['('] && second = [')'] then holds look fuel [operator]
      else if first = ['!'] then return !(← holds look fuel [operator, second])
      else whole
    | first :: rest =>
      if isFew && first = ['('] && words.getLast? = some [')'] then
        holds look fuel rest.dropLast
      else if isFew && first = ['!'] then return !(← holds look fuel rest)
      else whole
    | [] => whole

def Fault.message : Fault → Chars
  | notNumber word => "Illegal number: ".toList ++ word
  | needy operator => operator ++ ": argument expected".toList
  | unclosed => "closing paren expected".toList
  | unexpected word =>
    if word.isEmpty then "unexpected operator".toList
    else word ++ ": unexpected operator".toList

/-- Works out a condition whose command is called by a name; behind a bracket the last
word is the closing one.  `none` if that is missing. -/
def check (look : Look) (isBracket : Bool) (args : List Chars) : Option (Except Fault Bool) :=
  if isBracket then
    if args.getLast? = some [']'] then
      some (holds look (args.length + 1) args.dropLast)
    else none
  else some (holds look (args.length + 1) args)

end BrowserBridge.Tool.Condition
