import BrowserBridge.Json.Shape
import BrowserBridge.Message.Response

/-!
What a command came to.  An adapter decides which kinds of response values become
the outcome's JSON value; the response value itself is kept beside it.
-/

namespace BrowserBridge

namespace Value

/-- The JSON of a value: one member named for its kind. -/
def toJson : Value → Json
  | text value => .object [("string", .string value)]
  | flag value => .object [("bool", .bool value)]
  | texts values => .object [("set", .array (values.map .string))]

def ofJson : Json → Json.Shaped Value :=
  Json.asVariant
    [("string", fun json => text <$> json.asString),
     ("bool", fun json => flag <$> json.asBool),
     ("set", fun json => texts <$> json.asStrings)]

end Value

structure Outcome where
  status : Int32
  sessionId : Option String
  state : String
  value : Json
  /-- The response value that the outcome was made from. -/
  raw : Option Value

namespace Outcome

def successStatus : Int32 := 0

def isSuccess (outcome : Outcome) : Bool := outcome.status = successStatus

/-- The text of the response value. -/
def rawText? (outcome : Outcome) : Option String := outcome.raw.bind Value.text?

/-- The members that an outcome is written as, in order; the response value is none of them. -/
def members (outcome : Outcome) : List (String × Json) :=
  [("status", .integer outcome.status.toInt),
   ("sessionId", outcome.sessionId.elim .null .string),
   ("state", .string outcome.state),
   ("value", outcome.value)]

def toJson (outcome : Outcome) : Json := .ofMembers outcome.members

def toText (outcome : Outcome) : String := (Json.object outcome.members).render

/-- An outcome of which some fields are still missing. -/
structure Draft where
  status : Option Int32
  sessionId : Option String
  state : Option String
  value : Option Json

def fields : List String := ["status", "sessionId", "state", "value"]

def Draft.put (draft : Draft) (field : String) (json : Json) : Json.Shaped Draft := do
  match field with
  | "status" => return { draft with status := ← json.asInt32 }
  | "sessionId" => return { draft with sessionId := ← json.asOption Json.asString }
  | "state" => return { draft with state := ← json.asString }
  | "value" => return { draft with value := json }
  | _ => return draft

/-- The outcome, if nothing is missing but the session. -/
def Draft.finish (draft : Draft) : Json.Shaped Outcome :=
  match draft with
  | ⟨some status, sessionId, some state, some value⟩ => .ok ⟨status, sessionId, state, value, none⟩
  | ⟨none, _, _, _⟩ => .error (.missing "status")
  | ⟨_, _, none, _⟩ => .error (.missing "state")
  | ⟨_, _, _, none⟩ => .error (.missing "value")

/-- Reads an outcome off JSON.  An array has to have all fields. -/
def ofJson (json : Json) : Json.Shaped Outcome := do
  let draft ← json.asRecord "CommandResult" fields Draft.put ⟨none, none, none, none⟩
  match json with
  | .array elements =>
    if elements.length < fields.length then
      throw (.length elements.length "struct CommandResult with 4 elements")
    else draft.finish
  | _ => draft.finish

end Outcome

/-- Which kinds of response values become the value of an outcome. -/
inductive Adapter where
  /-- Sets only; a text or a flag becomes null. -/
  | setOnly
  /-- All kinds. -/
  | allKinds
  deriving DecidableEq, Repr

namespace Adapter

/-- The JSON value of a response value. -/
def valueOf : Adapter → Option Value → Json
  | _, some (.texts values) => .array (values.map .string)
  | allKinds, some (.text value) => .string value
  | allKinds, some (.flag value) => .bool value
  | _, _ => .null

def adapt (adapter : Adapter) (response : Response) : Outcome :=
  { status := response.status.getD Outcome.successStatus
    sessionId := response.sessionId
    state := response.state.getD ""
    value := adapter.valueOf response.value
    raw := response.value }

end Adapter

end BrowserBridge
