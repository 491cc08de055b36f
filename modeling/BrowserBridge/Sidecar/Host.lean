import BrowserBridge.Sidecar.Listing

/-!
What looking after a service process needs of the machine it runs on.
-/

namespace BrowserBridge

/-- Machines that run processes.  Times are in nanoseconds. -/
class Host (τ : Type) where
  /-- The processes that listen on a port. -/
  list : (port : UInt16) → (now : Nat) → StateM τ (Except Fault (List ProcessInfo))
  /-- Ends a process. -/
  terminate : (pid : UInt32) → (now : Nat) → StateM τ (Except Fault Unit)
  /-- Launches a program and tells its process id if it is known. -/
  spawn : (program : String) → (args : List String) → (now : Nat) →
    StateM τ (Except Fault (Option UInt32))
  /-- Takes the lock of a file, which is made if it is missing, and says whether it
  was taken. -/
  lock : (path : String) → StateM τ Bool
  /-- The end of the clock: a time from there on cannot be asked for. -/
  clockEnd : Nat

end BrowserBridge
