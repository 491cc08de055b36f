import BrowserBridge.Shell.World
import BrowserBridge.Sidecar.Process

/-!
A shell in the middle of its commands, and the steps that its commands consist of:
looking up and setting variables, writing and reading through descriptors, and giving
up with a message.
-/

namespace BrowserBridge.Shell

structure Variable where
  value : Option Chars
  isExported : Bool
  isReadOnly : Bool

/-- A shell. -/
structure Interpreter where
  name : Chars
  args : List Chars
  bindings : List (Chars × Variable)
  functions : List (Chars × Command)
  /-- The options that are on, by their letters. -/
  options : List Char
  /-- The exit code of the last command. -/
  status : Nat
  /-- The exit code of the last command whose output was taken into a word. -/
  outputStatus : Option Nat
  lastJob : Option Nat
  jobs : List Nat
  /-- What is done on signals; at the end, by the number zero. -/
  traps : List (Nat × Chars)
  descriptors : List (Nat × Stream)
  /-- What variables were before functions made them their own, innermost function
  first. -/
  scopes : List (List (Chars × Option Variable))
  line : Nat
  /-- The command that messages name. -/
  speaker : Option Chars
  folder : Chars
  /-- The process id that it has for itself, also where a copy of it runs. -/
  pid : Nat
  parent : Nat
  /-- The job that it belongs to. -/
  writer : Nat
  /-- Whether it is a copy, which signals to the shell do not reach. -/
  isCopy : Bool
  /-- How many loops are running. -/
  loops : Nat
  /-- How many functions are running. -/
  depth : Nat
  /-- The texts of redirections, by their numbers. -/
  texts : List (Nat × Word)

structure Machine where
  shell : Interpreter
  world : World

/-- Why a shell leaves what it does. -/
inductive Stop where
  | leave (levels : Nat)
  | again (levels : Nat)
  | returned
  | exited
  /-- A complaint was written. -/
  | failed
  | killed (signal : Nat)
  /-- Another program has taken its place and has ended. -/
  | replaced (status : ExitStatus)
  /-- It does not come to an end. -/
  | endless
  deriving DecidableEq

/-- A step of a shell. -/
abbrev Run := ExceptT Stop (StateM Machine)

/-- A text as one character for each of its bytes. -/
def ofText (text : String) : Chars := (Text.encode text).map fun byte => Char.ofNat byte.toNat

def ofNat (n : Nat) : Chars := (toString n).toList

def ofInt (n : Int) : Chars := (toString n).toList

/-- The signals that have names, in the order of their numbers. -/
def signalNames : List String :=
  ["EXIT", "HUP", "INT", "QUIT", "ILL", "TRAP", "ABRT", "BUS", "FPE", "KILL", "USR1", "SEGV",
   "USR2", "PIPE", "ALRM", "TERM", "16", "CHLD", "CONT", "STOP", "TSTP", "TTIN", "TTOU",
   "URG", "XCPU", "XFSZ", "VTALRM", "PROF", "WINCH", "IO", "PWR", "SYS", "32", "33", "RTMIN",
   "RTMIN+1", "RTMIN+2", "RTMIN+3", "RTMIN+4", "RTMIN+5", "RTMIN+6", "RTMIN+7", "RTMIN+8",
   "RTMIN+9", "RTMIN+10", "RTMIN+11", "RTMIN+12", "RTMIN+13", "RTMIN+14", "RTMIN+15",
   "RTMAX-14", "RTMAX-13", "RTMAX-12", "RTMAX-11", "RTMAX-10", "RTMAX-9", "RTMAX-8", "RTMAX-7",
   "RTMAX-6", "RTMAX-5", "RTMAX-4", "RTMAX-3", "RTMAX-2", "RTMAX-1", "RTMAX"]

/-- What a signal did to a program, in words. -/
def signalText (signal : Nat) : String :=
  match signal with
  | 1 => "Hangup"
  | 2 => "Interrupt"
  | 3 => "Quit"
  | 4 => "Illegal instruction"
  | 5 => "Trace/breakpoint trap"
  | 6 => "Aborted"
  | 7 => "Bus error"
  | 8 => "Floating point exception"
  | 9 => "Killed"
  | 10 => "User defined signal 1"
  | 11 => "Segmentation fault"
  | 12 => "User defined signal 2"
  | 13 => "Broken pipe"
  | 14 => "Alarm clock"
  | 15 => "Terminated"
  | 16 => "Stack fault"
  | 24 => "CPU time limit exceeded"
  | 25 => "File size limit exceeded"
  | 26 => "Virtual timer expired"
  | 27 => "Profiling timer expired"
  | 29 => "I/O possible"
  | 30 => "Power failure"
  | 31 => "Bad system call"
  | n => if 34 ≤ n && n ≤ 64 then "Real-time signal " ++ toString (n - 34) else
      "Unknown signal " ++ toString n

/-- What a signal does to a program that does not mind it. -/
inductive Disposition where
  | ends
  | ignored
  | stops
  deriving DecidableEq

def disposition (signal : Nat) : Disposition :=
  if [0, 17, 18, 23, 28].contains signal then .ignored
  else if [19, 20, 21, 22].contains signal then .stops
  else .ends

/-- The number of a signal by its name, which may be written in small letters. -/
def signalOfName? (name : Chars) : Option Nat :=
  let upper := String.ofList (name.map Char.toUpper)
  if upper.toList.all Char.isDigit then none else signalNames.findIdx? (· = upper)

/-- The number of a signal by its name or by its numeral. -/
def signal? (text : Chars) : Option Nat :=
  if !text.isEmpty && text.all Char.isDigit then
    let n := text.foldl (fun n c => n * 10 + (c.toNat - '0'.toNat)) 0
    if n < 65 then some n else none
  else signalOfName? text

namespace Run

def shell : Run Interpreter := do return (← get).shell

/-- What the shell shares with others. -/
def world : Run World := do return (← get).world

def modifyShell (change : Interpreter → Interpreter) : Run Unit :=
  modify fun machine => { machine with shell := change machine.shell }

def modifyWorld (change : World → World) : Run Unit :=
  modify fun machine => { machine with world := change machine.world }

def setStatus (status : Nat) : Run Unit :=
  modifyShell fun shell => { shell with status := status }

def isOn (option : Char) : Run Bool := do return (← shell).options.contains option

/-- Writes to a stream; `false` if it cannot be written to. -/
def writeStream (stream : Stream) (text : Chars) : Run Bool := do
  match stream with
  | .nothing => return true
  | .relayed relayed =>
    let writer := (← shell).writer
    if !text.isEmpty then
      modifyWorld fun world =>
        { world with written := ⟨world.now, writer, relayed, text⟩ :: world.written }
    return true
  | .opened number =>
    match (← world).opened.lookup number with
    | some opened =>
      if opened.canWrite then
        modifyWorld (·.writeOpened number text)
        return true
      else return false
    | none => return false

def write (descriptor : Nat) (text : Chars) : Run Bool := do
  match (← shell).descriptors.lookup descriptor with
  | some stream => writeStream stream text
  | none => return false

def warn (text : Chars) : Run Unit := discard (write 2 text)

def complain (message : Chars) : Run Unit := do
  let shell ← shell
  let speaker := match shell.speaker with
    | some name => name ++ ": ".toList
    | none => []
  warn (shell.name ++ ": ".toList ++ ofNat shell.line ++ ": ".toList ++ speaker ++ message ++
    ['\n'])

/-- Gives up with a complaint and an exit code. -/
def failWith {α : Type} (status : Nat) (message : Chars) : Run α := do
  complain message
  setStatus status
  throw .failed

def fail {α : Type} (message : Chars) : Run α := failWith 2 message

/-- Tells of a signal that has ended a program. -/
def warnOf (signal : Nat) : Run Unit := do
  if signal ≠ 2 && signal ≠ 13 then warn ((signalText signal).toList ++ ['\n'])

def readAll (descriptor : Nat) : Run Chars := do
  match (← shell).descriptors.lookup descriptor with
  | some (.opened number) =>
    let text := (← world).unread number
    modifyWorld (·.advance number text.length)
    return text
  | _ => return []

/-- Reads a character through a descriptor. -/
def unread (descriptor : Nat) : Run Chars := do
  match (← shell).descriptors.lookup descriptor with
  | some (.opened number) => return (← world).unread number
  | _ => return []

/-- Takes characters that were read through a descriptor. -/
def take (descriptor count : Nat) : Run Unit := do
  match (← shell).descriptors.lookup descriptor with
  | some (.opened number) => modifyWorld (·.advance number count)
  | _ => return ()

/-- A variable. -/
def held? (name : Chars) : Run (Option Variable) := do
  return (← shell).bindings.lookup name

def value? (name : Chars) : Run (Option Chars) := do
  return (← held? name).bind (·.value)

def valueOf (name : String) : Run Chars := do return (← value? name.toList).getD []

def putVariable (name : Chars) (new : Variable) : Run Unit :=
  modifyShell fun shell =>
    { shell with bindings := World.replace name new shell.bindings }

def assign (name value : Chars) : Run Unit := do
  let old := (← held? name).getD ⟨none, false, false⟩
  if old.isReadOnly then fail (name ++ ": is read only".toList)
  else putVariable name { old with value := some value }

def unset (name : Chars) : Run Unit := do
  match ← held? name with
  | some old =>
    if old.isReadOnly then fail (name ++ ": is read only".toList)
    else modifyShell fun shell =>
      { shell with bindings := shell.bindings.filter (·.1 ≠ name) }
  | none => return ()

/-- The variables that programs are launched with. -/
def environment : Run (List (Chars × Chars)) := do
  return (← shell).bindings.filterMap fun (name, found) =>
    if found.isExported then found.value.map (name, ·) else none

/-- What a path leads to, seen from the shell's folder: the absolute path, and what is
there. -/
def resolve (path : Chars) : Run (Except PathFault (Chars × Option Node)) := do
  return (← world).resolve (← shell).folder path

/-- What a path leads to. -/
def existing (path : Chars) : Run (Except PathFault Node) := do
  return (← world).existing (← shell).folder path

/-- Puts a stream behind a descriptor. -/
def connect (descriptor : Nat) (stream : Stream) : Run Unit :=
  modifyShell fun shell =>
    { shell with descriptors := World.replace descriptor stream shell.descriptors }

/-- Takes what is behind a descriptor away. -/
def disconnect (descriptor : Nat) : Run Unit :=
  modifyShell fun shell =>
    { shell with descriptors := shell.descriptors.filter (·.1 ≠ descriptor) }

/-- Does something with a word in front of its complaints. -/
def speakingAs {α : Type} (name : Option Chars) (act : Run α) : Run α := do
  let old := (← shell).speaker
  modifyShell fun shell => { shell with speaker := name }
  let result ← tryCatch act fun stop => do
    modifyShell fun shell => { shell with speaker := old }
    throw stop
  modifyShell fun shell => { shell with speaker := old }
  return result

/-- Sends a signal; `false` if there is no one with that process id. -/
def send (target signal : Nat) : Run Bool := do
  let world ← world
  if world.shells.contains target then
    modifyWorld fun world => { world with sent := world.sent ++ [⟨world.now, target, signal⟩] }
    return true
  else if (world.job? target).any fun job => world.now < job.finish then
    if disposition signal = .ends then modifyWorld (·.endJob target signal)
    return true
  else return false

/-- Takes the first signal for this shell that comes until some time. -/
def received (limit : Nat) : Run (Option Sent) := do
  let shell ← shell
  if shell.isCopy then return none
  else
    let isMine (sent : Sent) : Bool := sent.target = shell.pid && sent.time ≤ limit
    match (← world).sent.find? isMine with
    | none => return none
    | some found =>
      modifyWorld fun world => { world with sent := world.sent.eraseP isMine }
      return some found

end Run

end BrowserBridge.Shell
