import BrowserBridge.Sidecar.Host

/-!
A machine that is a table of processes.  A process becomes visible on its port some
time after its launch, or never, and single actions can be made to fail.
-/

namespace BrowserBridge

/-- A process on a port. -/
structure TableEntry where
  port : UInt16
  process : ProcessInfo
  /-- The time from which it is listed, in nanoseconds. -/
  visibleFrom : Nat
  deriving DecidableEq

/-- What a table was asked for. -/
inductive TableCall where
  | list (port : UInt16)
  | terminate (pid : UInt32)
  | spawn (program : String) (args : List String)
  deriving DecidableEq

/-- A machine that is a table of processes. -/
structure ProcessTable where
  /-- The processes in the order of their listing. -/
  entries : List TableEntry
  /-- The id of the next process. -/
  nextPid : UInt32
  queryFails : Bool
  spawnFails : Bool
  /-- The processes that cannot be ended. -/
  immortal : List UInt32
  /-- How long after its launch a process listens, in nanoseconds; with `none` it
  never does. -/
  listenDelay : Option Nat
  /-- Whether locks can be taken. -/
  lockable : Bool
  /-- The lock files made, the last one first. -/
  locks : List String
  /-- The actions and their times, the last one first. -/
  calls : List (Nat × TableCall)

namespace ProcessTable

/-- A table without processes on which everything succeeds. -/
def empty (lockable : Bool) : ProcessTable :=
  ⟨[], 1001, false, false, [], some 0, lockable, [], []⟩

def note (table : ProcessTable) (now : Nat) (call : TableCall) : ProcessTable :=
  { table with calls := (now, call) :: table.calls }

def visible (table : ProcessTable) (port : UInt16) (now : Nat) : List ProcessInfo :=
  (table.entries.filter fun entry => entry.port == port && entry.visibleFrom ≤ now).map (·.process)

def remove (table : ProcessTable) (pid : UInt32) : ProcessTable :=
  { table with entries := table.entries.filter fun entry => entry.process.pid != pid }

def add (table : ProcessTable) (port : UInt16) (process : ProcessInfo) (visibleFrom : Nat) :
    ProcessTable :=
  { table with entries := table.entries ++ [⟨port, process, visibleFrom⟩] }

/-- The port that the last argument of a launch names. -/
def portOf (args : List String) : UInt16 :=
  UInt16.ofNat ((args.getLast?.bind (Text.natBelow? 0x10000)).getD 0)

def launch (table : ProcessTable) (program : String) (args : List String) (now : Nat) :
    ProcessTable :=
  let next := { table with nextPid := table.nextPid + 1 }
  match table.listenDelay with
  | some delay => next.add (portOf args) ⟨table.nextPid, program⟩ (now + delay)
  | none => next

instance : Host ProcessTable where
  list port now := do
    modify (·.note now (.list port))
    let table ← get
    return if table.queryFails then .error (.processQuery "query failed")
      else .ok (table.visible port now)
  terminate pid now := do
    modify (·.note now (.terminate pid))
    if (← get).immortal.contains pid then return .error (.processQuery "termination failed")
    else
      modify (·.remove pid)
      return .ok ()
  spawn program args now := do
    modify (·.note now (.spawn program args))
    let table ← get
    if table.spawnFails then return .error (.launchFailed "launch failed")
    else
      set (table.launch program args now)
      return .ok (some table.nextPid)
  lock path := do
    let table ← get
    if table.lockable then
      set { table with locks := path :: table.locks }
      return true
    else return false
  -- whole seconds in 64 bits with a sign
  clockEnd := 0x8000000000000000 * 1000000000

theorem list_eq (port : UInt16) (now : Nat) (table : ProcessTable) :
    Host.list port now table =
      (if table.queryFails then .error (.processQuery "query failed")
        else .ok (table.visible port now), table.note now (.list port)) := rfl

theorem lock_eq (path : String) (table : ProcessTable) :
    Host.lock path table =
      if table.lockable then (true, { table with locks := path :: table.locks })
      else (false, table) := by
  by_cases hlock : table.lockable = true
  · rw [if_pos hlock]
    exact congrFun (if_pos hlock) table
  · rw [if_neg hlock]
    exact congrFun (if_neg hlock) table

theorem spawn_eq (program : String) (args : List String) (now : Nat) (table : ProcessTable) :
    let noted := table.note now (.spawn program args)
    Host.spawn program args now table =
      if table.spawnFails then (.error (.launchFailed "launch failed"), noted)
      else (.ok (some table.nextPid), noted.launch program args now) := by
  intro noted
  by_cases hfails : table.spawnFails = true
  · rw [if_pos hfails]
    exact congrFun (if_pos hfails) noted
  · rw [if_neg hfails]
    exact congrFun (if_neg hfails) noted

end ProcessTable

end BrowserBridge
