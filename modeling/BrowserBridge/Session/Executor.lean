import BrowserBridge.Command.Outcome
import BrowserBridge.Command.Table
import BrowserBridge.Service.Basic

/-!
Executors run commands for one session over a connection to a service.  A
connection is either owned by one executor or shared by several holders; the last
holder to release a shared connection closes it.
-/

namespace BrowserBridge

/-- How an executor holds its connection. -/
inductive Link where
  | owned
  | shared
  /-- Given up. -/
  | released
  deriving DecidableEq, Repr

def Link.name : Link → String
  | owned => "owned"
  | shared => "shared"
  | released => "released"

def Adapter.name : Adapter → String
  | setOnly => "SetOnly"
  | allKinds => "AllArms"

/-- A runner of commands for one session. -/
structure Executor where
  link : Link
  /-- The session that commands belong to, once it is known. -/
  session : Option SessionId
  adapter : Adapter
  deriving DecidableEq

/-- A service with the number of those who hold it. -/
structure Connection (σ : Type) where
  service : σ
  holders : Nat

/-- An executor at its connection. -/
structure Seat (σ : Type) where
  executor : Executor
  connection : Connection σ

/-- What an executor does at its connection; a failure undoes nothing. -/
abbrev Act (σ α : Type) := EStateM Fault (Seat σ) α

namespace Executor

/-- An executor without a session. -/
def fresh (link : Link) (adapter : Adapter) : Executor := ⟨link, none, adapter⟩

/-- Whether the connection was given up. -/
def isReleased (executor : Executor) : Bool := executor.link = .released

def describe (executor : Executor) : String :=
  let session := match executor.session with
    | some id => "Bound(" ++ id.describe ++ ")"
    | none => "Unbound"
  "RpcCommandExecutor \x7b link: " ++ Text.quoted executor.link.name ++
    ", session: " ++ session ++ ", adapter: " ++ executor.adapter.name ++ " \x7d"

/-- Binds a session.  A session once bound stays. -/
def bind (executor : Executor) (id : SessionId) : Except Fault Executor :=
  match executor.session with
  | none => .ok { executor with session := some id }
  | some current =>
    if current = id then .ok executor else .error (.sessionAlreadyBound current id)

end Executor

namespace Act

variable {σ : Type} [Service σ]

/-- Uses the service of the connection. -/
def onService {α : Type} (act : EStateM Fault σ α) : Act σ α := fun seat =>
  match act seat.connection.service with
  | .ok a service => .ok a { seat with connection := { seat.connection with service := service } }
  | .error fault service =>
    .error fault { seat with connection := { seat.connection with service := service } }

/-- Uses the service unless the connection was given up. -/
def reach {α : Type} (act : EStateM Fault σ α) : Act σ α := do
  if (← get).executor.isReleased then throw .connectionClosed else onService act

def bind (id : SessionId) : Act σ Unit := fun seat =>
  match seat.executor.bind id with
  | .ok executor => .ok () { seat with executor := executor }
  | .error fault => .error fault seat

/-- Runs a command that is in the table. -/
def run (command : Command) (params : Json) : Act σ Outcome := do
  let executor := (← get).executor
  if executor.session.isNone && !command.isSessionFree then throw .sessionNotBound
  else
    let session := executor.session.map SessionId.text
    let response : Response ← reach (Service.perform (.execute session command.name params.render))
    return executor.adapter.adapt response

/-- Runs a command by its name. -/
def execute (name : String) (params : Json) : Act σ Outcome :=
  match Command.ofName? name with
  | some command => run command params
  | none => throw (.unrecognizedCommand name)

/-- Gives the connection up.  An owned connection is closed, a shared one if no one
else holds it. -/
def release : Act σ Unit := do
  let seat ← get
  set { seat with executor := { seat.executor with link := .released } }
  match seat.executor.link with
  | .released => return ()
  | .owned => onService (Service.perform .close)
  | .shared =>
    modify fun seat =>
      { seat with connection := { seat.connection with holders := seat.connection.holders - 1 } }
    if seat.connection.holders ≤ 1 then onService (Service.perform .close)

/-- Ends the service if it holds no session, and says whether it did; a failure
counts as not. -/
def quitIfIdle : Act σ Bool := fun seat =>
  match reach Service.quitIfInactive seat with
  | .ok quit seat => .ok quit seat
  | .error _ seat => .ok false seat

end Act

end BrowserBridge
