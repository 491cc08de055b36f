import BrowserBridge.Channel.Basic
import BrowserBridge.Json.Describe
import BrowserBridge.Session.Driver
import BrowserBridge.Sidecar.Supervisor
import BrowserBridge.Url.Basic

/-!
Setting a driver up.  All settings are checked before anything is done: first the
address of the hub, then the endpoint of the service, then the settings of the
service process.  Then the process is started, the service connected to and the
session begun.  A process that cannot be started is no fault; only a start that does not
return ends the setup.
-/

namespace BrowserBridge

/-- The settings of a driver. -/
structure Setup where
  hub : String
  capabilities : List (String × Json)
  endpoint : Option Endpoint
  options : ChannelOptions
  backoff : Backoff
  /-- The service process to look after. -/
  sidecar : Option SidecarConfig
  adapter : Adapter

/-- How a driver comes by its service. -/
inductive Connector (σ : Type) where
  /-- It connects to the endpoint; what comes of it depends on the limits and on when
  to try again. -/
  | dial (connect : Endpoint → ChannelOptions → Backoff → Backoff.Trial σ)
  /-- It is given one of its own. -/
  | owned (service : σ)
  /-- It is given one that others may hold, too. -/
  | shared (connection : Connection σ)

namespace Connector

variable {σ : Type}

/-- The connector that hands a connection on as it is linked; only a shared one has
other holders. -/
def given (link : Link) (connection : Connection σ) : Connector σ :=
  match link with
  | .shared => shared connection
  | _ => owned connection.service

/-- The connection that stays behind if the driver drops it without using it. -/
def dropped? : Connector σ → Option (Connection σ)
  | dial _ => none
  | owned service => some ⟨service, 0⟩
  | shared connection => some { connection with holders := connection.holders - 1 }

end Connector

/-- What a setup came to. -/
structure Build (τ σ : Type) where
  outcome : Except Abort (Except Fault Driver)
  /-- The executor, if it came to one. -/
  executor : Option Executor
  /-- The connection that was given or made, as it was left. -/
  connection : Option (Connection σ)
  /-- How often connecting was tried. -/
  attempts : Nat
  /-- The machine of the service process. -/
  host : τ

/-- The executor at its connection, if there was one. -/
def Build.seat {τ σ : Type} (build : Build τ σ) : Option (Seat σ) :=
  build.executor.bind fun executor => build.connection.map fun connection =>
    ⟨executor, connection⟩

namespace Setup

def defaultHub : String := "http://127.0.0.1:4444/wd/hub"

def default : Setup := ⟨defaultHub, [], none, .default, .default, none, .setOnly⟩

def capability (setup : Setup) (name : String) (value : Json) : Setup :=
  { setup with capabilities := Json.insertMember name value setup.capabilities }

/-- The address of the hub in its one form; only the schemes `http` and `https` will
do.  `parse` is how addresses are read. -/
def hubUrl (setup : Setup) (parse : String → Except UrlFault Url) :
    Except Fault String :=
  match parse setup.hub with
  | .error cause => .error (.invalidUrl setup.hub cause)
  | .ok (.web url) =>
    if url.scheme = "http" || url.scheme = "https" then .ok url.text
    else .error (.config (.scheme url.scheme))
  | .ok (.other scheme _) => .error (.config (.scheme scheme))

/-- The endpoint of the service: the one set, else that of the service process, else
the default. -/
def target (setup : Setup) : Endpoint :=
  match setup.endpoint, setup.sidecar with
  | some endpoint, _ => endpoint
  | none, some config => .localhost config.port
  | none, none => .default

def check (setup : Setup) (parse : String → Except UrlFault Url) : Except Fault String := do
  let hub ← setup.hubUrl parse
  setup.target.check
  match setup.sidecar with
  | some config => config.check
  | none => .ok ()
  return hub

/-- Starts the service process if one is looked after, whatever comes of that as long as the
start returns; with the machine after it.  `wait` is the random wait that was drawn. -/
def startSidecar {τ : Type} [Host τ] (setup : Setup) (wait : Nat) (host : τ) :
    Except Abort Unit × τ :=
  match setup.sidecar with
  | some config =>
    let (outcome, keeper) := Supervisor.ensureStarted wait (Supervisor.fresh config host)
    (outcome.map fun _ => (), keeper.host)
  | none => (.ok (), host)

def begin {τ σ : Type} [Service σ] (setup : Setup) (hub : String) (link : Link)
    (connection : Connection σ) (attempts : Nat) (host : τ) : Build τ σ :=
  let driver : Driver := ⟨hub, setup.capabilities, setup.sidecar.isSome⟩
  match driver.start ⟨.fresh link setup.adapter, connection⟩ with
  | .ok () seat => ⟨.ok (.ok driver), some seat.executor, some seat.connection, attempts, host⟩
  | .error fault seat =>
    ⟨.ok (.error fault), some seat.executor, some seat.connection, attempts, host⟩

/-- Sets a driver up; `parse` is how addresses are read. -/
def buildWith {τ σ : Type} [Host τ] [Service σ] (setup : Setup)
    (parse : String → Except UrlFault Url) (connector : Connector σ) (wait : Nat) (host : τ) :
    Build τ σ :=
  match setup.check parse with
  | .error fault => ⟨.ok (.error fault), none, connector.dropped?, 0, host⟩
  | .ok hub =>
    match setup.startSidecar wait host with
    | (.error abort, host) => ⟨.error abort, none, connector.dropped?, 0, host⟩
    | (.ok (), host) =>
      match connector with
      | .owned service => setup.begin hub .owned ⟨service, 1⟩ 0 host
      | .shared connection => setup.begin hub .shared connection 0 host
      | .dial connect =>
        let trial := connect setup.target setup.options setup.backoff
        match trial.outcome with
        | .ok service => setup.begin hub .owned ⟨service, 1⟩ trial.attempts host
        | .error fault => ⟨.ok (.error fault), none, none, trial.attempts, host⟩

def build {τ σ : Type} [Host τ] [Service σ] (setup : Setup) (connector : Connector σ)
    (wait : Nat) (host : τ) : Build τ σ :=
  setup.buildWith Url.parse connector wait host

def describe (setup : Setup) : String :=
  let optional := fun text : Option String => match text with
    | some text => "Some(" ++ text ++ ")"
    | none => "None"
  "DriverBuilder \x7b remote_url: " ++ Text.quoted setup.hub ++
    ", capabilities: \x7b" ++ ", ".intercalate (Json.inspectMembers setup.capabilities) ++
    "\x7d, endpoint: " ++ optional (setup.endpoint.map Endpoint.describe) ++
    ", service: " ++ optional (setup.sidecar.map SidecarConfig.describe) ++
    ", adapter: " ++ setup.adapter.name ++ ", .. \x7d"

end Setup

end BrowserBridge
