import BrowserBridge.Sidecar.Config
import BrowserBridge.Sidecar.Host

/-!
Looking after a service process: starting it unless it runs, waiting until it
listens, and stopping it.  Starts of one port exclude each other by a lock file,
and a start that holds the lock gives it up when the service listens or the startup
timeout is over.  If the clock of the machine ends before that, such a start is cut short:
it has launched the service and noted it, but it does not return.
-/

namespace BrowserBridge

/-- What a start came to. -/
inductive StartOutcome where
  | alreadyRunning
  | launched (pid : Option UInt32)
  | failed
  deriving DecidableEq, Repr

def StartOutcome.isAvailable : StartOutcome → Bool
  | failed => false
  | _ => true

/-- Why an action does not return. -/
inductive Abort where
  /-- It asked for a time past the end of the clock. -/
  | pastClock
  deriving DecidableEq, Repr

/-- A keeper of a service process on a machine. -/
structure Supervisor (τ : Type) where
  config : SidecarConfig
  /-- The processes that it launched, by port. -/
  handles : List (UInt16 × Option UInt32)
  /-- The time in nanoseconds. -/
  clock : Nat
  host : τ

namespace Supervisor

variable {τ : Type}

def fresh (config : SidecarConfig) (host : τ) : Supervisor τ := ⟨config, [], 0, host⟩

/-- The process that it launched for a port. -/
def launchedPid? (supervisor : Supervisor τ) (port : UInt16) : Option UInt32 :=
  (supervisor.handles.lookup port).join

/-- Forgets what it launched for a port. -/
def forget (supervisor : Supervisor τ) (port : UInt16) : Supervisor τ :=
  { supervisor with handles := supervisor.handles.filter fun handle => handle.1 != port }

def remember (supervisor : Supervisor τ) (port : UInt16) (pid : Option UInt32) : Supervisor τ :=
  { supervisor with handles := (port, pid) :: (supervisor.forget port).handles }

def pass (supervisor : Supervisor τ) (nanos : Nat) : Supervisor τ :=
  { supervisor with clock := supervisor.clock + nanos }

variable [Host τ]

/-- Whether a process with the marker listens on a port; one that cannot be found
out about does not. -/
def listens (marker : String) (port : UInt16) (now : Nat) : StateM τ Bool := do
  match ← Host.list port now with
  | .ok processes => return processes.any (·.hasMarker marker)
  | .error _ => return false

/-- The time between two looks at a port, in nanoseconds. -/
def pollInterval : Nat := 100 * 1000000

/-- Looks at a port again and again until a process with the marker listens or the
deadline is reached; the last look is at the deadline.  Gives whether it listens
and when that was known. -/
def awaitListener (marker : String) (port : UInt16) (deadline now : Nat) (host : τ) :
    (Bool × Nat) × τ :=
  match listens marker port now host with
  | (true, host) => ((true, now), host)
  | (false, host) =>
    if deadline ≤ now then ((false, now), host)
    else awaitListener marker port deadline (now + min pollInterval (deadline - now)) host
termination_by deadline - now
decreasing_by
  have : 0 < pollInterval := by decide
  omega

/-- Runs an action of the machine now. -/
def onHost {α : Type} (act : (now : Nat) → StateM τ α) : StateM (Supervisor τ) α := do
  let supervisor ← get
  let (a, host) := act supervisor.clock supervisor.host
  set { supervisor with host := host }
  return a

def isRunning (port : UInt16) : StateM (Supervisor τ) Bool := do
  onHost (listens (← get).config.marker port)

/-- Takes the start lock of a port, if there are locks. -/
def takeLock (port : UInt16) : StateM (Supervisor τ) Bool := do
  match (← get).config.lockPath port with
  | some path => onHost fun _ => Host.lock path
  | none => return false

/-- Waits for the service to listen, no longer than the startup timeout.  The deadline is
asked for before the first look. -/
def waitStarted (port : UInt16) : StateM (Supervisor τ) (Except Abort Unit) := do
  let supervisor ← get
  let deadline := supervisor.clock + supervisor.config.startupTimeout.nanos
  if Host.clockEnd τ ≤ deadline then return .error .pastClock
  else
    let ((_, now), host) :=
      awaitListener supervisor.config.marker port deadline supervisor.clock supervisor.host
    set { supervisor with clock := now, host := host }
    return .ok ()

/-- Starts the service on a port unless it runs.  `wait` is the random wait that was
drawn, in nanoseconds; it is no longer than the longest one set. -/
def start (port : UInt16) (wait : Nat) : StateM (Supervisor τ) (Except Abort StartOutcome) := do
  let locked ← takeLock port
  modify fun supervisor =>
    supervisor.pass (min wait (supervisor.config.slowStart.millis.toNat * 1000000))
  if ← isRunning port then return .ok .alreadyRunning
  else
    let config := (← get).config
    match ← onHost (Host.spawn config.runtime (config.launchArgs port)) with
    | .error _ => return .ok .failed
    | .ok pid =>
      modify fun supervisor => supervisor.remember port pid
      if locked && config.startupTimeout.nanos ≠ 0 then
        return (← waitStarted port).map fun () => .launched pid
      else return .ok (.launched pid)

/-- Starts the service on its own port unless it runs. -/
def ensureStarted (wait : Nat) : StateM (Supervisor τ) (Except Abort StartOutcome) := do
  start (← get).config.port wait

/-- Ends processes one after the other and counts the successes. -/
def terminateAll : List UInt32 → StateM (Supervisor τ) Nat
  | [] => return 0
  | pid :: rest => do
    let ended ← onHost (Host.terminate pid)
    let others ← terminateAll rest
    return match ended with
      | .ok () => others + 1
      | .error _ => others

/-- Ends the processes with the marker on a port and counts those ended.  Nothing
happens if they cannot be found out. -/
def stop (port : UInt16) : StateM (Supervisor τ) Nat := do
  match ← onHost (Host.list port) with
  | .error _ => return 0
  | .ok processes =>
    let marker := (← get).config.marker
    let ended ← terminateAll ((processes.filter (·.hasMarker marker)).map (·.pid))
    modify fun supervisor => supervisor.forget port
    return ended

/-- Ends the service on its own port. -/
def shutdown : StateM (Supervisor τ) Nat := do stop (← get).config.port

end Supervisor

end BrowserBridge
