import BrowserBridge.Shell.Builtin

/-!
Shells that begin: their variables, what their arguments mean, and what they are asked
to run.
-/

namespace BrowserBridge.Shell

open Run

/-- Variables of a shell that begins: those that it is given, and some of its own. -/
def firstVariables (parent : Nat) (folder : Chars) (given : List (Chars × Chars)) :
    List (Chars × Variable) :=
  let own : List (Chars × Variable) :=
    [("IFS".toList, ⟨some [' ', '\t', '\n'], false, false⟩),
      ("PPID".toList, ⟨some (ofNat parent), false, false⟩),
      ("PS1".toList, ⟨some ['#', ' '], false, false⟩),
      ("PS2".toList, ⟨some ['>', ' '], false, false⟩),
      ("PS4".toList, ⟨some ['+', ' '], false, false⟩),
      ("PATH".toList,
        ⟨some "/usr/local/sbin:/usr/local/bin:/usr/sbin:/usr/bin:/sbin:/bin".toList, false, false⟩)]
  let all := given.foldl
    (fun all (name, value) =>
      if name = "IFS".toList || !isName name then all
      else World.replace name ⟨some value, true, false⟩ all)
    own
  World.replace "PWD".toList ⟨some folder, true, false⟩ all

/-- A shell that begins. -/
def Interpreter.first (name : Chars) (pid parent : Nat) (descriptors : List (Nat × Stream))
    (folder : Chars) (writer : Nat) (given : List (Chars × Chars)) : Interpreter :=
  { name := name, args := [], bindings := firstVariables parent folder given, functions := []
    options := [], status := 0, outputStatus := none, lastJob := none, jobs := []
    traps := [], descriptors := descriptors, scopes := [], line := 0, speaker := none
    folder := folder, pid := pid, parent := parent, writer := writer
    isCopy := false, loops := 0, depth := 0, texts := [] }

/-- What a shell is asked to run. -/
inductive Script where
  | command (text : Chars)
  | file (path : Chars)
  | input

/-- Reads the arguments of a shell in front of its script: whether a command follows. -/
def shellOptions : (args : List Chars) → (isCommand : Bool) → Run (Bool × List Chars)
  | [], isCommand => return (isCommand, [])
  | arg :: rest, isCommand => do
    match arg with
    | ['-', '-'] => return (isCommand, rest)
    | ['-'] => return (isCommand, rest)
    | sign :: c :: letters =>
      if sign = '-' || sign = '+' then
        for letter in (c :: letters).filter (fun letter => !(['c', 'l'].contains letter)) do
          Builtin.switch (sign = '-') letter
        shellOptions rest (isCommand || (c :: letters).contains 'c')
      else return (isCommand, arg :: rest)
    | _ => return (isCommand, arg :: rest)

/-- What a shell that begins is asked to run; its name and arguments are set. -/
def scriptOf (args : List Chars) : Run Script := do
  let (isCommand, operands) ← shellOptions args false
  if isCommand then
    match operands with
    | [] => fail "-c requires an argument".toList
    | text :: rest =>
      match rest with
      | name :: args => modifyShell fun shell => { shell with name := name, args := args }
      | [] => pure ()
      return .command text
  else if ← isOn 's' then
    modifyShell fun shell => { shell with args := operands }
    return .input
  else
    match operands with
    | path :: args =>
      modifyShell fun shell => { shell with args := args }
      return .file path
    | [] => return .input

end BrowserBridge.Shell
