import BrowserBridge.Fault
import BrowserBridge.Text.Blank

/-!
Where the service listens.
-/

namespace BrowserBridge

structure Endpoint where
  host : String
  port : UInt16
  deriving DecidableEq

namespace Endpoint

def defaultPort : UInt16 := 9092

/-- A service on this machine. -/
def localhost (port : UInt16) : Endpoint := ⟨"127.0.0.1", port⟩

def default : Endpoint := localhost defaultPort

def text (endpoint : Endpoint) : String :=
  endpoint.host ++ ":" ++ toString endpoint.port.toNat

/-- Refuses an endpoint with a blank host or port 0. -/
def check (endpoint : Endpoint) : Except Fault Unit :=
  if Text.isBlank endpoint.host then .error (.config .blankHost)
  else if endpoint.port = 0 then .error (.config .zeroPort)
  else .ok ()

def describe (endpoint : Endpoint) : String :=
  "ServiceEndpoint \x7b host: " ++ Text.quoted endpoint.host ++ ", port: " ++
    toString endpoint.port.toNat ++ " \x7d"

def toJson (endpoint : Endpoint) : Json :=
  .object [("host", .string endpoint.host), ("port", .integer endpoint.port.toNat)]

def put (endpoint : Endpoint) (field : String) (json : Json) : Json.Shaped Endpoint := do
  match field with
  | "host" => return { endpoint with host := ← json.asString }
  | "port" => return { endpoint with port := ← json.asUInt16 }
  | _ => return endpoint

/-- Reads an endpoint off JSON; what is missing is as in the default. -/
def ofJson (json : Json) : Json.Shaped Endpoint :=
  json.asRecord "ServiceEndpoint" ["host", "port"] put default

end Endpoint

end BrowserBridge
