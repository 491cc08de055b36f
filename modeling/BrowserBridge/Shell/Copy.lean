import BrowserBridge.Shell.Machine

/-!
Copies of a shell, and how what runs in them ends.  A copy shares files and time with
the shell, and leaves the shell itself as it was.
-/

namespace BrowserBridge.Shell

open Run

/-- How a command is run. -/
structure Mode where
  /-- Whether something asks for its exit code, so that a failure does not end the
  shell. -/
  isTested : Bool
  /-- Whether nothing comes behind it. -/
  isFinal : Bool

/-- A command in the middle of others. -/
def Mode.plain : Mode := ⟨false, false⟩

/-- A command whose exit code is asked for. -/
def Mode.tested : Mode := ⟨true, false⟩

/-- A command behind which nothing comes. -/
def Mode.final : Mode := ⟨false, true⟩

/-- Runs a shell to its end: what it does, and then what is to be done at the end. -/
def finishing (atEnd : Chars → Run Unit) (act : Run Unit) : Run ExitStatus := do
  let attempt (act : Run Unit) : Run (Option Stop) :=
    tryCatch (do act; return none) fun stop => return some stop
  let close (stop : Option Stop) (status : Nat) : Run ExitStatus := do
    match stop with
    | some (.killed signal) => return .signalled signal
    | some (.replaced status) => return status
    | some .endless => throw .endless
    | some .exited | some .failed => return .exited ((← shell).status % 256)
    | _ => return .exited (status % 256)
  match ← attempt act with
  | some (.killed signal) => return .signalled signal
  | some (.replaced status) => return status
  | some .endless => throw .endless
  | _ =>
    let status := (← shell).status
    match (← shell).traps.lookup 0 with
    | some action =>
      modifyShell fun shell => { shell with traps := shell.traps.filter (·.1 ≠ 0) }
      close (← attempt (atEnd action)) status
    | none => return .exited (status % 256)

/-- Does something to the shell, and afterwards puts the shell back as it was. -/
def apart {α : Type} (act : Run α) : Run α := do
  let old ← shell
  let result ← tryCatch act fun stop => do
    modifyShell fun _ => old
    throw stop
  modifyShell fun _ => old
  return result

/-- Runs something in a copy of the shell. -/
def inCopy (isOther : Bool) (atEnd : Chars → Run Unit) (act : Run Unit) : Run ExitStatus :=
  apart do
    modifyShell fun shell =>
      { shell with
        isCopy := shell.isCopy || isOther
        traps := shell.traps.filter (·.2.isEmpty)
        jobs := []
        loops := 0 }
    finishing atEnd act

/-- The exit code that stands for how a program ended. -/
def codeOf : ExitStatus → Nat
  | .exited code => code
  | .signalled signal => 128 + signal

/-- Tells how a program ended if a signal has ended it. -/
def tellOf : ExitStatus → Run Unit
  | .exited _ => return ()
  | .signalled signal => warnOf signal

def ended (status : ExitStatus) : Run Unit := do
  setStatus (codeOf status)
  tellOf status

end BrowserBridge.Shell
