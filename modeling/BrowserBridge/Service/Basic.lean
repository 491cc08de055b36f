import BrowserBridge.Fault
import BrowserBridge.Message.Arguments
import BrowserBridge.Message.Response

/-!
What a bridge service is asked for.  Every call has a type of answer of its own,
and a service is a state that performs calls; it keeps its state when a call
fails.
-/

namespace BrowserBridge

inductive Call where
  /-- Points the service at the browser hub. -/
  | attach (hub : String)
  /-- Runs a command with its parameters as JSON text. -/
  | execute (session : Option String) (command params : String)
  /-- Checks the current page against layout specs. -/
  | checkLayout (test session specs : String) (included excluded : List String)
  /-- Writes the report into a folder. -/
  | generateReport (folder : String)
  /-- Counts the sessions that the service holds. -/
  | activeDrivers
  /-- Ends the service. -/
  | shutService
  /-- Closes the connection to the service. -/
  | close
  deriving DecidableEq, Repr

abbrev Call.Answer : Call → Type
  | execute .. => Response
  | checkLayout .. => Int32
  | activeDrivers => Int32
  | _ => Unit

/-- States that perform calls. -/
class Service (σ : Type) where
  perform : (call : Call) → EStateM Fault σ call.Answer

namespace Service

def quitIfInactive {σ : Type} [Service σ] : EStateM Fault σ Bool := do
  let active : Int32 ← perform .activeDrivers
  if 0 < active then return false
  else
    let () ← perform .shutService
    return true

end Service

end BrowserBridge
