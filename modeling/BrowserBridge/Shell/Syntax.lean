/-!
Commands of the system's command language.  A text here has one character for each
byte, so that output of programs that is not UTF-8 passes through variables and
substitutions unharmed.
-/

namespace BrowserBridge.Shell

/-- A text of the command language: one character for each byte. -/
abbrev Chars := List Char

/-- Which end of a value a pattern is taken away from. -/
inductive Side where
  | front
  | back
  deriving DecidableEq

mutual

inductive Part where
  | text (chars : Chars) (isQuoted : Bool)
  | parameter (name : Chars) (form : Form) (isQuoted : Bool)
  /-- The output of commands. -/
  | output (body : Option Command) (isQuoted : Bool)
  | arithmetic (expression : List Part) (isQuoted : Bool)

/-- What becomes of the value of a parameter.  Where a form says so with `isStrict`, an
empty value counts as none. -/
inductive Form where
  | value
  | length
  /-- Another value if there is none. -/
  | otherwise (isStrict : Bool) (word : List Part)
  /-- Another value if there is none, which the parameter takes. -/
  | assign (isStrict : Bool) (word : List Part)
  /-- A complaint if there is none. -/
  | demand (isStrict : Bool) (word : List Part)
  /-- Another value if there is one. -/
  | instead (isStrict : Bool) (word : List Part)
  /-- The value without what a pattern matches at one end. -/
  | trim (side : Side) (isLongest : Bool) (pattern : List Part)
  /-- A form that does not exist. -/
  | bad

/-- Where a redirected file descriptor leads. -/
inductive Target where
  | read (file : List Part)
  | write (file : List Part)
  | append (file : List Part)
  | duplicate (descriptor : Nat)
  | duplicateWord (word : List Part)
  | close
  /-- A text that stands in the script, by its number. -/
  | here (number : Nat)

inductive Redirection where
  | mk (descriptor : Nat) (target : Target)

/-- A command.  Where errors are told by line it has the line that it begins in. -/
inductive Command where
  | simple (line : Nat) (assignments : List (Chars × List Part)) (words : List (List Part))
    (redirections : List Redirection)
  | pipeline (stages : List Command)
  | negation (command : Command)
  | both (first second : Command)
  | either (first second : Command)
  | sequence (first second : Command)
  | background (command : Command)
  | redirected (line : Nat) (command : Command) (redirections : List Redirection)
  | subshell (line : Nat) (body : Command) (redirections : List Redirection)
  | branch (test : Command) (body : Command) (otherwise : Option Command)
  /-- A loop as long as a test succeeds, or as long as it fails. -/
  | loop (isUntil : Bool) (test body : Command)
  | each (line : Nat) (name : Chars) (words : Option (List (List Part))) (body : Command)
  | choice (line : Nat) (subject : List Part)
    (cases : List (List (List Part) × Option Command))
  | function (name : Chars) (body : Command)

end

abbrev Word := List Part

instance : Inhabited Command := ⟨.pipeline []⟩

def isNameStart (c : Char) : Bool := c.isAlpha || c = '_'

def isNameChar (c : Char) : Bool := isNameStart c || c.isDigit

def isName : Chars → Bool
  | [] => false
  | c :: rest => isNameStart c && rest.all isNameChar

/-- Whether a character names a parameter of the shell's own. -/
def isSpecial (c : Char) : Bool := ['!', '#', '$', '*', '-', '?', '@'].contains c

/-- The commands of the shell's own whose mistakes end it, and whose names no function can
have. -/
def specialCommands : List String :=
  [":", "break", "continue", "eval", "exec", "exit", "export", "local", "readonly", "return",
   "set", "shift", "trap", "unset"]

end BrowserBridge.Shell
