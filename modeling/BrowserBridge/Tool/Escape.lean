import BrowserBridge.Tool.Basic

/-!
Backslash escapes in texts, and the tools that write their arguments on a line.
-/

namespace BrowserBridge.Tool

open Shell (Chars)

/-- Which escapes a text knows. -/
structure EscapeRule where
  /-- Whether octal digits of arguments may come behind one more zero. -/
  hasLeadingZero : Bool
  hasHexadecimal : Bool
  /-- Whether `c` ends all output. -/
  hasEnd : Bool
  hasQuote : Bool
  deriving DecidableEq

def EscapeRule.shellFormat : EscapeRule := ⟨false, false, false, false⟩

def EscapeRule.shellArgument : EscapeRule := ⟨true, false, true, false⟩

def EscapeRule.format : EscapeRule := ⟨false, true, true, true⟩

def EscapeRule.argument : EscapeRule := ⟨true, true, true, true⟩

def EscapeRule.echo : EscapeRule := ⟨true, true, true, false⟩

/-- What an escape is. -/
inductive Escape where
  /-- A text, and what follows the escape. -/
  | text (chars rest : Chars)
  | ends
  /-- A hexadecimal escape without digits. -/
  | broken

def hexadecimal? (c : Char) : Option Nat :=
  if c.isDigit then some (c.toNat - '0'.toNat)
  else if 'a' ≤ c && c ≤ 'f' then some (c.toNat - 'a'.toNat + 10)
  else if 'A' ≤ c && c ≤ 'F' then some (c.toNat - 'A'.toNat + 10)
  else none

def isOctal (c : Char) : Bool := '0' ≤ c && c ≤ '7'

/-- Reads up to so many octal digits as a character. -/
def takeOctal (limit : Nat) (text : Chars) : Char × Chars :=
  let digits := (text.take limit).takeWhile isOctal
  let n := digits.foldl (fun n c => n * 8 + (c.toNat - '0'.toNat)) 0
  (Char.ofNat (n % 256), text.drop digits.length)

/-- Reads what follows a backslash. -/
def EscapeRule.read (rule : EscapeRule) : Chars → Escape
  | [] => .text ['\\'] []
  | c :: rest =>
    match c with
    | '\\' => .text ['\\'] rest
    | 'a' => .text ['\x07'] rest
    | 'b' => .text ['\x08'] rest
    | 'e' => .text ['\x1b'] rest
    | 'f' => .text ['\x0c'] rest
    | 'n' => .text ['\n'] rest
    | 'r' => .text ['\r'] rest
    | 't' => .text ['\t'] rest
    | 'v' => .text ['\x0b'] rest
    | 'c' => if rule.hasEnd then .ends else .text ['\\', 'c'] rest
    | '"' => if rule.hasQuote then .text ['"'] rest else .text ['\\', '"'] rest
    | 'x' =>
      let digits := (rest.take 2).takeWhile fun c => (hexadecimal? c).isSome
      if !rule.hasHexadecimal then .text ['\\', 'x'] rest
      else if digits.isEmpty then .broken
      else
        let n := (digits.filterMap hexadecimal?).foldl (fun n digit => n * 16 + digit) 0
        .text [Char.ofNat n] (rest.drop digits.length)
    | _ =>
      if c = '0' && rule.hasLeadingZero && rest.head?.any isOctal then
        let (found, behind) := takeOctal 3 rest
        .text [found] behind
      else if isOctal c then
        let (found, behind) := takeOctal 3 (c :: rest)
        .text [found] behind
      else .text ['\\', c] rest

/-- A text with its escapes replaced, and whether one of them ends all output.  `fuel`
bounds the steps. -/
def unescapeFrom (rule : EscapeRule) : (fuel : Nat) → Chars → Chars × Bool
  | 0, _ => ([], false)
  | _ + 1, [] => ([], false)
  | fuel + 1, '\\' :: rest =>
    match rule.read rest with
    | .text chars behind =>
      let (others, ends) := unescapeFrom rule fuel behind
      (chars ++ others, ends)
    | .ends => ([], true)
    | .broken =>
      let (others, ends) := unescapeFrom rule fuel (rest.drop 1)
      ('\\' :: rest.take 1 ++ others, ends)
  | fuel + 1, c :: rest =>
    let (others, ends) := unescapeFrom rule fuel rest
    (c :: others, ends)

/-- A text with its escapes replaced, and whether one of them ends all output. -/
def unescape (rule : EscapeRule) (text : Chars) : Chars × Bool :=
  unescapeFrom rule (text.length + 1) text

/-- Texts with blanks between them. -/
def spaced (texts : List Chars) : Chars := [' '].intercalate texts

def shellEcho (args : List Chars) : Chars :=
  let (args, ending) := match args with
    | ['-', 'n'] :: rest => (rest, [])
    | _ => (args, ['\n'])
  let (text, ends) := unescape .shellArgument (spaced args)
  if ends then text else text ++ ending

def isEchoOption : Chars → Bool
  | '-' :: c :: rest => (c :: rest).all ['n', 'e', 'E'].contains
  | _ => false

def echo (args : List Chars) : Chars :=
  let letters := (args.takeWhile isEchoOption).flatMap (·.drop 1)
  let text := spaced (args.dropWhile isEchoOption)
  let ending := if letters.contains 'n' then [] else ['\n']
  if (letters.filter (· ≠ 'n')).getLast? = some 'e' then
    let (text, ends) := unescape .echo text
    if ends then text else text ++ ending
  else text ++ ending

end BrowserBridge.Tool
