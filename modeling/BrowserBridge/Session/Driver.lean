import BrowserBridge.Session.Executor

/-!
Drivers: a session on a remote browser from its handshake to its end.  A handshake
that fails is cleaned up after, and the fault told is the handshake's own.
-/

namespace BrowserBridge

structure Driver where
  /-- The address of the browser hub. -/
  hub : String
  capabilities : List (String × Json)
  /-- Whether the service process is looked after. -/
  supervised : Bool

namespace Driver

variable {σ : Type} [Service σ]

def newSessionParams (capabilities : List (String × Json)) : Json :=
  .object [("desiredCapabilities", .object capabilities)]

/-- Points the service at the hub and asks for a session. -/
def handshake (driver : Driver) : Act σ SessionId := do
  let () ← Act.reach (Service.perform (.attach driver.hub))
  let outcome ← Act.run .newSession (newSessionParams driver.capabilities)
  if outcome.isSuccess then
    match outcome.sessionId.bind SessionId.ofText? with
    | some id => return id
    | none => throw (.sessionNotCreated outcome.status "Response carried no session id")
  else
    throw (.sessionNotCreated outcome.status
      ("newSession returned status " ++ toString outcome.status.toInt))

/-- Leaves a connection whose handshake failed: an idle service is ended and the
connection given up. -/
def cleanUp : Act σ Unit := fun seat =>
  match Act.quitIfIdle seat with
  | .ok _ seat =>
    match Act.release seat with
    | .ok () seat => .ok () seat
    | .error _ seat => .ok () seat
  | .error _ seat => .ok () seat

/-- Starts a session and binds it. -/
def start (driver : Driver) : Act σ Unit := fun seat =>
  match driver.handshake seat with
  | .ok id seat => Act.bind id seat
  | .error fault seat =>
    match cleanUp seat with
    | .ok () seat => .error fault seat
    | .error _ seat => .error fault seat

def get (url : String) : Act σ Unit := do
  let _ ← Act.run .get (.object [("url", .string url)])

/-- Where the browser is, if the response is a text. -/
def currentUrl : Act σ (Option String) := do
  return (← Act.run .currentUrl (.object [])).rawText?

/-- The title of the page, if the response is a text. -/
def title : Act σ (Option String) := do
  return (← Act.run .title (.object [])).rawText?

/-- Checks the current page against layout specs. -/
def checkLayout (test specs : String) (included excluded : List String) : Act σ Int32 := do
  match (← EStateM.get).executor.session with
  | some id => Act.reach (Service.perform (.checkLayout test id.text specs included excluded))
  | none => throw .sessionNotBound

def generateReport (folder : String) : Act σ Unit :=
  Act.reach (Service.perform (.generateReport folder))

def activeDrivers : Act σ Int32 := Act.reach (Service.perform .activeDrivers)

/-- Ends the session and gives the connection up, also if ending it failed.  Of two
faults the first is told. -/
def quit : Act σ Unit := fun seat =>
  match Act.run .quit (.object []) seat with
  | .ok _ seat => Act.release seat
  | .error fault seat =>
    match Act.release seat with
    | .ok () seat => .error fault seat
    | .error _ seat => .error fault seat

def describe (driver : Driver) (session : Option SessionId) : String :=
  let session := match session with
    | some id => "Some(" ++ id.describe ++ ")"
    | none => "None"
  "RemoteDriver \x7b remote_url: " ++ Text.quoted driver.hub ++
    ", session_id: " ++ session ++
    ", managed_service: " ++ (if driver.supervised then "true" else "false") ++ ", .. \x7d"

end Driver

end BrowserBridge
