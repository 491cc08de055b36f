import BrowserBridge.Command.Outcome
import BrowserBridge.Proofs.Json.Shape

/-!
What outcomes keep of the responses that they are made from.  An outcome that is written as JSON
is read as it was, but for the response value beside it, which is not written.  Adapted in all its
kinds, a response value is told by the JSON value alone.
-/

namespace BrowserBridge

namespace Outcome

/-- The members of an outcome by their keys. -/
theorem toJson_eq (outcome : Outcome) :
    outcome.toJson = .object
      [("sessionId", outcome.sessionId.elim .null .string),
       ("state", .string outcome.state),
       ("status", .integer outcome.status.toInt),
       ("value", outcome.value)] := by
  simp only [toJson, members, Json.ofMembers, Json.insertMember, List.foldl_cons, List.foldl_nil,
    String.reduceEq, String.reduceLT, if_true, if_false]

/-- An outcome without the response value that it was made from. -/
def bare (outcome : Outcome) : Outcome := { outcome with raw := none }

theorem members_bare (outcome : Outcome) : outcome.bare.members = outcome.members := rfl

theorem ofJson_toJson (outcome : Outcome) : ofJson outcome.toJson = .ok outcome.bare := by
  have hsession := Json.asOption_elim Json.asString (fun _ => rfl) outcome.sessionId
  simp [toJson_eq, ofJson, Json.asRecord, Draft.put, Draft.finish, Json.asString,
    Json.asInt32_toInt, hsession, bare, bind, Except.bind, pure, Except.pure]

/-- The text of an outcome is read as its JSON if its value has no objects and no numbers but
integers. -/
theorem parse?_toText {outcome : Outcome} (hwhole : Json.Whole outcome.value)
    (hsettled : Json.settled outcome.value = outcome.value) :
    Json.parse? outcome.toText = some outcome.toJson := by
  have hleast := outcome.status.le_toInt
  have hmost := outcome.status.toInt_lt
  have hmembers : Json.Whole (.object outcome.members) := by
    simp only [members, Json.Whole, Json.WholeMembers, Json.whole_elim, hwhole, and_true]
    omega
  have hsame : Json.settledMembers outcome.members = outcome.members := by
    simp [members, Json.settledMembers, Json.settled, Json.settled_elim, hsettled]
  rw [toText, Json.parse?_render hmembers, Json.settled, hsame, toJson]

end Outcome

namespace Adapter

/-- The response value that a JSON value stands for where all kinds are adapted. -/
def ofAdapted : Json → Option Value
  | .array elements => (Json.asStrings (.array elements)).toOption.map .texts
  | .string text => some (.text text)
  | .bool flag => some (.flag flag)
  | _ => none

/-- No kind of response value is lost, and no content. -/
theorem ofAdapted_valueOf (value : Option Value) : ofAdapted (valueOf allKinds value) = value := by
  rcases value with _ | text | flag | texts
  · rfl
  · rfl
  · rfl
  · rw [valueOf, ofAdapted, Json.asStrings_map]
    rfl

theorem valueOf_allKinds_injective : Function.Injective (valueOf allKinds) :=
  Function.LeftInverse.injective ofAdapted_valueOf

theorem whole_valueOf (adapter : Adapter) (value : Option Value) :
    Json.Whole (adapter.valueOf value) := by
  rcases value with _ | text | flag | texts
  case some.texts => exact Json.wholeElements_map texts
  all_goals cases adapter <;> exact True.intro

theorem settled_valueOf (adapter : Adapter) (value : Option Value) :
    Json.settled (adapter.valueOf value) = adapter.valueOf value := by
  rcases value with _ | text | flag | texts
  case some.texts => simp [valueOf, Json.settled, Json.settledElements_map]
  all_goals cases adapter <;> simp [valueOf, Json.settled]

/-- Where only sets are adapted, sets and missing values come to the same as where all kinds are,
and texts and flags to null. -/
theorem valueOf_setOnly (value : Option Value) :
    setOnly.valueOf value =
      match value with
      | some (.text _) | some (.flag _) => .null
      | some (.texts _) | none => allKinds.valueOf value := by
  rcases value with _ | text | flag | texts <;> rfl

/-- The outcome of a response is read back from its JSON, as a value and as text, except for the
response value, and is written alike again.  The response value stands beside the adapted one.
Where all kinds are adapted, the adapted value alone tells it; where only sets are, it is the same
for sets and for a missing value, and null otherwise. -/
theorem adapt_keeps_information (response : Response) (adapter : Adapter) :
    (∃ back, Json.parse? (adapter.adapt response).toText = some (adapter.adapt response).toJson ∧
      Outcome.ofJson (adapter.adapt response).toJson = .ok back ∧
      back.status = (adapter.adapt response).status ∧
      back.sessionId = (adapter.adapt response).sessionId ∧
      back.state = (adapter.adapt response).state ∧
      back.value = (adapter.adapt response).value ∧
      back.raw = none ∧
      back.toJson = (adapter.adapt response).toJson ∧
      back.toText = (adapter.adapt response).toText) ∧
    (adapter.adapt response).raw = response.value ∧
    (∀ other : Response, (allKinds.adapt other).value = (allKinds.adapt response).value ↔
      other.value = response.value) ∧
    ofAdapted (allKinds.adapt response).value = response.value ∧
    (setOnly.adapt response).value =
      match response.value with
      | some (.text _) | some (.flag _) => .null
      | some (.texts _) | none => (allKinds.adapt response).value := by
  refine ⟨⟨(adapter.adapt response).bare, ?_, Outcome.ofJson_toJson _, rfl, rfl, rfl, rfl, rfl,
    ?_, ?_⟩, rfl, fun other => valueOf_allKinds_injective.eq_iff, ofAdapted_valueOf _,
    valueOf_setOnly _⟩
  · exact Outcome.parse?_toText (adapter.whole_valueOf _) (adapter.settled_valueOf _)
  · rw [Outcome.toJson, Outcome.members_bare, Outcome.toJson]
  · rw [Outcome.toText, Outcome.members_bare, Outcome.toText]

end Adapter

end BrowserBridge
