import BrowserBridge.Fault
import BrowserBridge.Shell.Evaluation
import BrowserBridge.Sidecar.Process

/-!
Launching programs on a small machine.  A launch gives what the process will do if it is
left alone, or why there is no process.

The machine has no more than what a process shows to the one who launched it: how it ends,
what its streams carry, and when it rests.  Its programs are the shell and a few tools.
Left out are, of the shell, aliases, options by name, patterns over file names, the home
folder of a tilde and the control of jobs, and of the tools the options that none of
them needs to write, repeat and wait.
-/

namespace BrowserBridge.Program

open Shell (Chars Machine PathFault Run World)

/-- How many steps a program may take that comes to an end. -/
def patience : Nat := 40000

/-- The length from which on one argument is too long. -/
def longestArgument : Nat := 131072

/-- The process id that the first process of the machine has for itself. -/
def ownPid : Nat := 1000

/-- The variables that programs are launched with. -/
def environment : List (Chars × Chars) :=
  [("HOME".toList, "/root".toList),
    ("PATH".toList, "/usr/local/sbin:/usr/local/bin:/usr/sbin:/usr/bin:/sbin:/bin".toList)]

/-- The machine before anything runs: nothing can be read, and both output streams are
relayed. -/
def machine : Machine :=
  { shell := Shell.Interpreter.first [] (ownPid - 1) (ownPid - 2)
      [(0, .nothing), (1, .relayed .stdout), (2, .relayed .stderr)] "/work".toList 0 environment
    world := { World.first with nextPid := ownPid } }

/-- A launch that fails because of a path. -/
def refused {α : Type} (fault : PathFault) : Except Fault α :=
  .error (.launchFailed s!"{fault.message} (os error {fault.code})")

/-- The program that a name or a path leads to. -/
def find (name : Chars) : Except Fault String :=
  if name.isEmpty then refused .missing
  else if !name.contains '/' && 255 < name.length then refused .tooLong
  else
    match (Shell.Builtin.findProgram name).run machine with
    | (.ok (.ok (_, program)), _) => .ok program
    | (.ok (.error fault), _) => refused fault
    | (.error _, _) => refused .missing

/-- The bytes that were written to a relayed stream. -/
def written (world : World) (stream : OutputStream) : Bytes :=
  (world.relayed stream).flatMap Shell.Chunk.bytes

/-- The bytes that were written to a relayed stream up to some time. -/
def writtenUntil (world : World) (stream : OutputStream) (time : Nat) : Bytes :=
  ((world.relayed stream).takeWhile (·.time ≤ time)).flatMap Shell.Chunk.bytes

/-- What a program does with arguments.  One that does not come to an end is taken to
rest behind its last step, unless it has rested before. -/
def behaviour (program : String) (name : Chars) (args : List Chars) : Behaviour :=
  let (result, after) := (Shell.launch patience program name args).run machine
  let world := after.world
  let restAt : Option Nat := match result with
    | .ok _ => world.firstRest
    | .error _ => some (world.firstRest.getD world.now)
  { stdout := written world .stdout
    stderr := written world .stderr
    status := match result with
      | .ok status => status
      | .error _ => .signalled killSignal
    beforeRest := restAt.map fun time =>
      (writtenUntil world .stdout time, writtenUntil world .stderr time) }

/-- What a program does that is launched with arguments. -/
def launch (program : String) (args : List String) : Except Fault Behaviour := do
  let name := Shell.ofText program
  let args := args.map Shell.ofText
  if (name :: args).any (·.contains '\x00') then
    .error (.launchFailed "nul byte found in provided data")
  else
    let found ← find name
    if (name :: args).any fun arg => longestArgument ≤ arg.length then
      .error (.launchFailed "Argument list too long (os error 7)")
    else return behaviour found name args

end BrowserBridge.Program
