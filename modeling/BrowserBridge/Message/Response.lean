import BrowserBridge.Message.Record

/-!
The answer to a command: an optional value, the session it belongs to, a status
and a state.  A value is a text, a truth value or a set of texts.
-/

namespace BrowserBridge

inductive Value where
  | text (value : String)
  | flag (value : Bool)
  /-- A set of texts in the order they came in. -/
  | texts (values : List String)
  deriving DecidableEq, Repr

namespace Value

/-- The set value of some texts: of equal ones the first stays. -/
def ofTexts (values : List String) : Value := .texts values.eraseDups

def text? : Value → Option String
  | text value => some value
  | _ => none

def flag? : Value → Option Bool
  | flag value => some value
  | _ => none

def texts? : Value → Option (List String)
  | texts values => some values
  | _ => none

/-- The struct that carries a value in the field of its kind, or no field. -/
def encodeOption : Option Value → Bytes
  | some (text value) => Wire.Encode.textField 1 (some value) ++ Wire.Encode.stop
  | some (flag value) => Wire.Encode.field .bool 2 ++ Wire.Encode.bool value ++ Wire.Encode.stop
  | some (texts values) => Wire.Encode.field .set 3 ++ Wire.Encode.texts values ++ Wire.Encode.stop
  | none => Wire.Encode.stop

/-- The value in a struct: of several fields the set stands before the flag and
the flag before the text.  Every field has to be well-formed. -/
def ofFields? (fields : Wire.Fields) : Except Wire.Malformed (Option Value) := do
  let asText := (← fields.text? 1).map text
  let asFlag := (fields.bool? 2).map flag
  let asTexts := (← fields.textSet? 3).map ofTexts
  return asTexts <|> asFlag <|> asText

end Value

structure Response where
  value : Option Value
  sessionId : Option String
  status : Option Int32
  state : Option String
  deriving DecidableEq

def Response.empty : Response := ⟨none, none, none, none⟩

instance : Record Response where
  encode response :=
    (match response.value with
      | some value => Wire.Encode.field .struct 1 ++ Value.encodeOption (some value)
      | none => []) ++
    Wire.Encode.textField 2 response.sessionId ++
    Wire.Encode.int32Field 3 response.status ++
    Wire.Encode.textField 4 response.state ++
    Wire.Encode.stop
  ofFields fields := do
    let value ← match fields.struct? 1 with
      | some inner => Value.ofFields? inner
      | none => .ok none
    return ⟨value, ← fields.text? 2, fields.i32? 3, ← fields.text? 4⟩

end BrowserBridge
