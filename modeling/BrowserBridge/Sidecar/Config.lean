import BrowserBridge.Channel.Endpoint
import BrowserBridge.Duration
import BrowserBridge.FilePath

/-!
How the service is launched and known again among processes.
-/

namespace BrowserBridge

/-- The settings of a service process. -/
structure SidecarConfig where
  /-- The program that runs the service. -/
  runtime : String
  /-- The folder of the service's archive. -/
  serverPath : String
  jarName : String
  port : UInt16
  /-- What the names of the service's processes contain. -/
  marker : String
  /-- The longest random wait before a launch. -/
  slowStart : Duration
  /-- The folder of the lock files; without one starts are not locked. -/
  lockDir : Option String
  /-- How long a locked start waits for the service to listen. -/
  startupTimeout : Duration
  extraArgs : List String
  deriving DecidableEq

namespace SidecarConfig

def default : SidecarConfig :=
  { runtime := "java"
    serverPath := ""
    jarName := "galen-api-server.jar"
    port := Endpoint.defaultPort
    marker := "java"
    slowStart := .ofMillis 1000
    lockDir := none
    startupTimeout := .ofMillis 30000
    extraArgs := [] }

def jarPath (config : SidecarConfig) : String := FilePath.join config.serverPath config.jarName

/-- The arguments of a launch on a port. -/
def launchArgs (config : SidecarConfig) (port : UInt16) : List String :=
  config.extraArgs ++ ["-jar", config.jarPath, "-r", toString port.toNat]

def lockName (port : UInt16) : String :=
  "thrift-webdriver-" ++ toString port.toNat ++ ".lock"

def lockPath (config : SidecarConfig) (port : UInt16) : Option String :=
  config.lockDir.map fun dir => FilePath.join dir (lockName port)

/-- Refuses settings that cannot launch anything. -/
def check (config : SidecarConfig) : Except Fault Unit :=
  if config.port = 0 then .error (.config .zeroPort)
  else if Text.isBlank config.runtime then .error (.config .blankRuntime)
  else if Text.isBlank config.jarName then .error (.config .blankJarName)
  else if Text.isBlank config.marker then .error (.config .blankMarker)
  else .ok ()

def describe (config : SidecarConfig) : String :=
  let lockDir := match config.lockDir with
    | some dir => "Some(" ++ Text.quoted dir ++ ")"
    | none => "None"
  "ServiceConfig \x7b runtime: " ++ Text.quoted config.runtime ++
    ", server_path: " ++ Text.quoted config.serverPath ++
    ", jar_name: " ++ Text.quoted config.jarName ++
    ", port: " ++ toString config.port.toNat ++
    ", process_marker: " ++ Text.quoted config.marker ++
    ", max_slow_start_delay: " ++ config.slowStart.describe ++
    ", lock_dir: " ++ lockDir ++
    ", startup_timeout: " ++ config.startupTimeout.describe ++
    ", extra_args: [" ++ ", ".intercalate (config.extraArgs.map Text.quoted) ++ "] \x7d"

def fields : List String :=
  ["runtime", "server_path", "jar_name", "port", "process_marker", "max_slow_start_delay_ms",
   "lock_dir", "startup_timeout_ms", "extra_args"]

/-- The members that settings are written as; spans of time are cut to whole
milliseconds. -/
def members (config : SidecarConfig) : List (String × Json) :=
  [("runtime", .string config.runtime),
   ("server_path", .string config.serverPath),
   ("jar_name", .string config.jarName),
   ("port", .integer config.port.toNat),
   ("process_marker", .string config.marker),
   ("max_slow_start_delay_ms", .integer config.slowStart.millis.toNat),
   ("lock_dir", config.lockDir.elim .null .string),
   ("startup_timeout_ms", .integer config.startupTimeout.millis.toNat),
   ("extra_args", .array (config.extraArgs.map .string))]

def toJson (config : SidecarConfig) : Json := .ofMembers config.members

/-- The JSON text of settings, with the fields in their order. -/
def toText (config : SidecarConfig) : String := (Json.object config.members).render

def put (config : SidecarConfig) (field : String) (json : Json) :
    Json.Shaped SidecarConfig := do
  match field with
  | "runtime" => return { config with runtime := ← json.asString }
  | "server_path" => return { config with serverPath := ← json.asPath }
  | "jar_name" => return { config with jarName := ← json.asString }
  | "port" => return { config with port := ← json.asUInt16 }
  | "process_marker" => return { config with marker := ← json.asString }
  | "max_slow_start_delay_ms" => return { config with slowStart := .ofMillis (← json.asUInt64) }
  | "lock_dir" => return { config with lockDir := ← json.asOption Json.asPath }
  | "startup_timeout_ms" =>
    return { config with startupTimeout := .ofMillis (← json.asUInt64) }
  | "extra_args" => return { config with extraArgs := ← json.asStrings }
  | _ => return config

/-- Reads settings off JSON; what is missing is as in the default. -/
def ofJson (json : Json) : Json.Shaped SidecarConfig :=
  json.asRecord "ServiceConfig" fields put default

end SidecarConfig

end BrowserBridge
