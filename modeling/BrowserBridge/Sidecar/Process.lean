import BrowserBridge.Sidecar.Relay

/-!
Processes that were launched, and processes of others.  A launched process has its
two output streams relayed; killing it, dropping it or waiting for its end takes the
relays away.
-/

namespace BrowserBridge

/-- How a process ended. -/
inductive ExitStatus where
  | exited (code : Nat)
  | signalled (signal : Nat)
  deriving DecidableEq, Repr

/-- The signal that ends a process at once. -/
def killSignal : Nat := 9

/-- What a process does that is left alone. -/
structure Behaviour where
  stdout : Bytes
  stderr : Bytes
  status : ExitStatus
  /-- What it has written to both streams when it rests first, if it does; then it can
  be ended from outside. -/
  beforeRest : Option (Bytes × Bytes)
  deriving DecidableEq

/-- A process by its handle. -/
structure ProcessHandle where
  /-- What it does, if it was launched here and not killed. -/
  child : Option Behaviour
  /-- How many of its streams are relayed. -/
  relays : Nat
  deriving DecidableEq

namespace ProcessHandle

def ofChild (behaviour : Behaviour) : ProcessHandle := ⟨some behaviour, 2⟩

/-- A process of someone else. -/
def external : ProcessHandle := ⟨none, 0⟩

/-- Waits for the end of a process; of one that is not there nothing is known. -/
def wait (handle : ProcessHandle) : Option ExitStatus := handle.child.map (·.status)

def kill (_ : ProcessHandle) : ProcessHandle := ⟨none, 0⟩

/-- The process after it was ended from outside. -/
def terminated (handle : ProcessHandle) : ProcessHandle :=
  { handle with
    child := handle.child.map fun behaviour =>
      match behaviour.beforeRest with
      | some (stdout, stderr) => ⟨stdout, stderr, .signalled killSignal, none⟩
      | none => behaviour }

/-- What the relay of one of its streams logs. -/
def relayed (handle : ProcessHandle) (stream : OutputStream) : List Relay.Record :=
  match handle.child with
  | none => []
  | some behaviour =>
    let written := match stream with
      | .stdout => behaviour.stdout
      | .stderr => behaviour.stderr
    (Relay.run stream stream.listener [written] .finished).records

end ProcessHandle

end BrowserBridge
