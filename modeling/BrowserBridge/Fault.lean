import BrowserBridge.IoFault
import BrowserBridge.Json.Shape
import BrowserBridge.Message.Failure
import BrowserBridge.SessionId
import BrowserBridge.Url.Fault
import BrowserBridge.Wire.Malformed

/-!
The faults of this library, with their wording and the classes that callers tell
apart.
-/

namespace BrowserBridge

inductive ConfigFault where
  | blankHost
  | zeroPort
  | blankRuntime
  | blankJarName
  | blankMarker
  | scheme (name : String)
  /-- Found by someone else and only passed on. -/
  | reported (text : String)
  deriving DecidableEq

def ConfigFault.message : ConfigFault → String
  | blankHost => "Service host must not be empty"
  | zeroPort => "Service port must be greater than zero"
  | blankRuntime => "Service runtime must not be empty"
  | blankJarName => "Service jar name must not be empty"
  | blankMarker => "Process marker must not be empty"
  | scheme name => "Remote URL must use http or https, got '" ++ name ++ "'"
  | reported text => text

/-- Anything that can go wrong. -/
inductive Fault where
  | config (cause : ConfigFault)
  | invalidUrl (url : String) (cause : UrlFault)
  | io (fault : IoFault)
  | connection (reason : String)
  | connectionTimeout (milliseconds : Nat)
  | callTimeout (method : String) (milliseconds : Nat)
  | connectionClosed
  /-- An earlier call failed in the middle of a message. -/
  | connectionPoisoned
  | malformed (cause : Wire.Malformed)
  /-- A failure of the call layer. -/
  | application (method : String) (kind : CallFailureKind) (reason : String)
  /-- The declared failure of a command. -/
  | command (reason : String)
  /-- The declared failure of a layout check. -/
  | specMissing (reason : String)
  | unrecognizedCommand (name : String)
  | sessionNotBound
  | sessionAlreadyBound (current attempted : SessionId)
  | sessionNotCreated (status : Int32) (reason : String)
  | launchFailed (reason : String)
  | processQuery (reason : String)
  | json (cause : Json.Misfit)

namespace Fault

/-- The wording of a fault. -/
def message : Fault → String
  | config cause => "Configuration error: " ++ cause.message
  | invalidUrl url cause => "Invalid remote URL '" ++ url ++ "': " ++ cause.message
  | io fault => "IO error: " ++ fault.text
  | connection reason => "Connection failed: " ++ reason
  | connectionTimeout ms => s!"Connection timeout after {ms}ms"
  | callTimeout method ms => "Call '" ++ method ++ s!"' timed out after {ms}ms"
  | connectionClosed => "Connection closed"
  | connectionPoisoned => "Connection unusable after a failed call"
  | malformed cause => "Protocol error: " ++ cause.message
  | application method kind reason =>
    "Application error in '" ++ method ++ "' (" ++ kind.name ++ "): " ++ reason
  | command reason => reason
  | specMissing reason => "Spec not found: " ++ reason
  | unrecognizedCommand name => "Unrecognised command: " ++ name
  | sessionNotBound => "No session bound to this driver"
  | sessionAlreadyBound current attempted =>
    "Session " ++ current.text ++ " already bound, refusing " ++ attempted.text
  | sessionNotCreated status reason =>
    s!"Session not created (status {status.toInt}): " ++ reason
  | launchFailed reason => "Failed to launch service: " ++ reason
  | processQuery reason => "Process query failed: " ++ reason
  | json cause => "JSON error: " ++ cause.message

def isTimeout : Fault → Bool
  | connectionTimeout _ => true
  | callTimeout _ _ => true
  | _ => false

/-- Whether the connection cannot be used after the fault. -/
def isTransport : Fault → Bool
  | io _ => true
  | connection _ => true
  | connectionTimeout _ => true
  | callTimeout _ _ => true
  | connectionClosed => true
  | connectionPoisoned => true
  | _ => false

/-- Whether it is a declared failure of a call that itself went well. -/
def isRemote : Fault → Bool
  | command _ => true
  | specMissing _ => true
  | _ => false

def isDisconnect : Fault → Bool
  | connectionClosed => true
  | io fault => fault.kind.isDisconnect
  | _ => false

end Fault

end BrowserBridge
