import BrowserBridge.Shell.Machine

/-!
Small tools of the system.  A tool gets its arguments, what can be read from its
standard input and from files, and gives what it writes and its exit code.
-/

namespace BrowserBridge.Tool

open Shell (Chars PathFault)

/-- What a tool works on. -/
structure Input where
  /-- The name that it was called by. -/
  name : Chars
  args : List Chars
  /-- What can be read from its standard input. -/
  stdin : Chars
  /-- The content of a file by its path. -/
  file : Chars → Except PathFault Chars

/-- What a tool did. -/
structure Outcome where
  output : Chars
  errors : Chars
  status : Nat
  /-- Whether it has read its standard input. -/
  hasRead : Bool
  deriving DecidableEq

def quiet (status : Nat) : Outcome := ⟨[], [], status, false⟩

/-- A tool that writes a text and succeeds. -/
def writes (text : Chars) : Outcome := ⟨text, [], 0, false⟩

def complaint (input : Input) (message : String) : Chars :=
  input.name ++ (": " ++ message ++ "\n").toList

/-- A tool that fails with a complaint and points to its help. -/
def misused (input : Input) (status : Nat) (message : String) : Outcome :=
  let name := String.ofList input.name
  ⟨[], complaint input (message ++ "\nTry '" ++ name ++ " --help' for more information."), status,
    false⟩

/-- The number that decimal digits spell. -/
def natural? (text : Chars) : Option Nat :=
  if text.isEmpty || !text.all Char.isDigit then none
  else some (text.foldl (fun n c => n * 10 + (c.toNat - '0'.toNat)) 0)

/-- The number that decimal digits with a sign spell. -/
def integer? (text : Chars) : Option Int :=
  match text with
  | '-' :: digits => (natural? digits).map fun n => -(n : Int)
  | '+' :: digits => (natural? digits).map fun n => (n : Int)
  | _ => (natural? text).map fun n => (n : Int)

/-- Puts together the texts of files, or of the standard input, which is also called
`-`.  Files that cannot be read are complained about. -/
def cat (input : Input) : Outcome :=
  (if input.args.isEmpty then [['-']] else input.args).foldl
    (fun outcome file =>
      if file = ['-'] then
        let text := if outcome.hasRead then [] else input.stdin
        { outcome with output := outcome.output ++ text, hasRead := true }
      else
        match input.file file with
        | .ok text => { outcome with output := outcome.output ++ text }
        | .error fault =>
          { outcome with
            errors := outcome.errors ++ complaint input (String.ofList file ++ ": " ++ fault.message)
            status := 1 })
    (quiet 0)

end BrowserBridge.Tool
