import BrowserBridge.Shell.Builtin
import BrowserBridge.Tool.Sequence

/-!
The programs of the machine other than the shell: small tools, one that rests, and one
that launches another program with other variables.
-/

namespace BrowserBridge.Shell

open Run

/-- The tools that make texts of texts. -/
def plainTool? (name : String) : Option (Tool.Input → Tool.Outcome) :=
  match name with
  | "true" => some fun _ => Tool.quiet 0
  | "false" => some fun _ => Tool.quiet 1
  | "echo" => some fun input => Tool.writes (Tool.echo input.args)
  | "printf" => some Tool.Format.tool
  | "seq" => some Tool.Sequence.tool
  | "cat" => some Tool.cat
  | _ => none

/-- The content of what a path leads to. -/
def contentOf (machine : Machine) (path : Chars) : Except PathFault Chars := do
  let shell := machine.shell
  let world := machine.world
  match ← world.existing shell.folder path with
  | .file number => return world.content number
  | .folder => .error .folder
  | .descriptor number =>
    match shell.descriptors.lookup number with
    | some (.opened opened) => return world.unread opened
    | some _ => return []
    | none => .error .missing
  | _ => return []

def warnAs (name : Chars) (message : Chars) : Run Unit :=
  warn (name ++ ": ".toList ++ message ++ ['\n'])

/-- Writes the output of a tool; gives its exit code. -/
def writeOutput (name output : Chars) (status : Nat) : Run Nat := do
  if ← write 1 output then return status
  else
    warnAs name "write error: Bad file descriptor".toList
    return 1

/-- A span of time in microseconds, from seconds with a point or with a unit. -/
def interval? (text : Chars) : Option Nat :=
  match Tool.Decimal.take? text with
  | some (number, unit) =>
    let scale? : Option Nat := match unit with
      | [] | ['s'] => some 1
      | ['m'] => some 60
      | ['h'] => some 3600
      | ['d'] => some 86400
      | _ => none
    if number.isNegative then none
    else scale?.map fun scale => number.numerator * scale * 1000000 / number.denominator
  | none =>
    if text = "infinity".toList || text = "inf".toList then some 1000000000000000 else none

def sleep (name : Chars) (args : List Chars) : Run Nat := do
  let hint := "\nTry '".toList ++ name ++ " --help' for more information.".toList
  let args := if args.head? = some ['-', '-'] then args.drop 1 else args
  if args.isEmpty then
    warnAs name ("missing operand".toList ++ hint)
    return 1
  else
    let bad := args.filter fun arg => (interval? arg).isNone
    if bad.isEmpty then
      let time := (args.filterMap interval?).foldl (· + ·) 0
      modifyWorld (·.rest time)
      return 0
    else
      match bad.find? fun arg => arg.head? = some '-' && 1 < arg.length with
      | some option =>
        warnAs name ("invalid option -- '".toList ++ (option.drop 1).take 1 ++ ['\''] ++ hint)
      | none =>
        for arg in bad.dropLast do
          warnAs name ("invalid time interval '".toList ++ arg ++ ['\''])
        warnAs name ("invalid time interval '".toList ++ bad.getLast?.getD [] ++ '\'' :: hint)
      return 1

def runTool (program : String) (name : Chars) (args : List Chars) : Run ExitStatus := do
  match plainTool? program with
  | some tool =>
    let machine ← get
    let input : Tool.Input := ⟨name, args, ← unread 0, contentOf machine⟩
    let outcome := tool input
    if outcome.hasRead then discard (readAll 0)
    warn outcome.errors
    return .exited (← writeOutput name outcome.output outcome.status)
  | none => return .exited (← if program = "sleep" then sleep name args else pure 0)

/-- Finds the program of a command and launches it. -/
def startProgram (launch : String → Chars → List Chars → Run ExitStatus) (name : Chars)
    (words : List Chars) : Run ExitStatus := do
  match words with
  | [] => return .exited 125
  | command :: args =>
    match ← Builtin.findProgram command with
    | .ok (_, program) => launch program command args
    | .error fault =>
      let isMissing := fault = .missing || fault = .notFolder
      warnAs name ('\'' :: command ++ "': ".toList ++ fault.message.toList)
      return .exited (if isMissing then 127 else 126)

/-- Launches a command with more variables, and without those that there are behind
`-i`; shows them if there is no command. -/
def withEnvironment (start : List Chars → Run ExitStatus) (name : Chars) (args : List Chars) :
    Run ExitStatus := do
  let isEmpty := args.head? = some ['-'] || args.head? = some ['-', 'i']
  if isEmpty then
    modifyShell fun shell => { shell with bindings := shell.bindings.map fun (key, held) =>
      (key, { held with isExported := false }) }
  let words := if isEmpty then args.drop 1 else args
  let isSetting (arg : Chars) : Bool := arg.contains '='
  for setting in words.takeWhile isSetting do
    let (key, value) := Builtin.assignmentOf setting
    putVariable key ⟨value, true, false⟩
  let command := words.dropWhile isSetting
  if command.isEmpty then
    let shown := (← environment).flatMap fun (key, value) => key ++ '=' :: value ++ ['\n']
    return .exited (← writeOutput name shown 0)
  else start command

end BrowserBridge.Shell
