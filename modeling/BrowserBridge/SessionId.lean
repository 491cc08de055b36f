import BrowserBridge.Json.Shape
import BrowserBridge.Text.Blank

/-!
Session ids: texts that are not blank.
-/

namespace BrowserBridge

/-- The id of a browser session. -/
structure SessionId where
  text : String
  notBlank : Text.isBlank text = false
  deriving DecidableEq

namespace SessionId

/-- The session id with a text, unless the text is blank. -/
def ofText? (text : String) : Option SessionId :=
  if h : Text.isBlank text = false then some ⟨text, h⟩ else none

def describe (id : SessionId) : String := "SessionId(" ++ id.text ++ ")"

def ofJson (json : Json) : Json.Shaped SessionId := do
  match ofText? (← json.asString) with
  | some id => return id
  | none => throw .blankSessionId

@[simp] theorem ofText?_text (id : SessionId) : ofText? id.text = some id := by
  simp [ofText?, id.notBlank]

theorem ofText?_eq_none_iff (text : String) : ofText? text = none ↔ Text.isBlank text := by
  simp [ofText?]

end SessionId

end BrowserBridge
