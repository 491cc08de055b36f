import BrowserBridge.Shell.Arithmetic
import BrowserBridge.Shell.Builtin
import BrowserBridge.Shell.Field

/-!
The steps of expanding words that need no command to run: parameters and expressions.
-/

namespace BrowserBridge.Shell

open Run

/-- The value of a parameter that is no list. -/
def parameterValue (name : Chars) : Run (Option Chars) := do
  let shell ← shell
  match name with
  | ['#'] => return some (ofNat shell.args.length)
  | ['?'] => return some (ofNat shell.status)
  | ['$'] => return some (ofNat shell.pid)
  | ['!'] => return shell.lastJob.map ofNat
  | ['-'] => return some (← Builtin.optionLetters)
  | _ =>
    match Tool.natural? name with
    | some 0 => return some shell.name
    | some n => return shell.args[n - 1]?
    | none => value? name

/-- What stands between arguments that are put together. -/
def joint : Run Chars := do
  match ← value? "IFS".toList with
  | some separators => return separators.take 1
  | none => return [' ']

def fieldsFrom (glyphs : List Glyph) : Run (List Chars) := do
  let separators := (← value? "IFS".toList).getD [' ', '\t', '\n']
  return (fieldsOf separators glyphs).map fun field => field.map (·.char)

/-- Gives up because of a mistake in an expression. -/
def failArithmetic {α : Type} (text : Chars) (fault : Arithmetic.Fault) : Run α :=
  match fault with
  | .expression message =>
    fail ("arithmetic expression: ".toList ++ message.toList ++ ": \"".toList ++ text ++ ['"'])
  | .notNumber value => fail ("Illegal number: ".toList ++ value)

/-- The value of an expression; the variables that it sets are set. -/
def arithmetic (text : Chars) : Run Chars := do
  let bindings := (← shell).bindings
  let look (name : Chars) : Chars := ((bindings.lookup name).bind (·.value)).getD []
  match Arithmetic.evaluate look text with
  | .error fault => failArithmetic text fault
  | .ok (value, assigned) =>
    for (name, n) in assigned do
      assign name (ofInt n)
    return ofInt value

end BrowserBridge.Shell
