import BrowserBridge.Wire.Reader
import BrowserBridge.Wire.Writer

/-!
Records: structs with a fixed schema, which have bytes and can be read off the
fields of a decoded struct.
-/

namespace BrowserBridge

class Record (α : Type) where
  /-- The body, up to and with the end of the struct. -/
  encode : α → Bytes
  /-- The record that decoded fields stand for. -/
  ofFields : Wire.Fields → Except Wire.Malformed α

namespace Record

variable {α : Type} [Record α]

/-- A field that holds a record, left out if there is none. -/
def encodeField (id : Int16) : Option α → Bytes
  | some record => Wire.Encode.field .struct id ++ encode record
  | none => []

/-- The record in a field. -/
def ofField? (fields : Wire.Fields) (id : Int16) : Except Wire.Malformed (Option α) :=
  match fields.struct? id with
  | some inner => some <$> ofFields inner
  | none => .ok none

def read : Wire.Read α := do
  match ofFields (← Wire.struct) with
  | .ok record => return record
  | .error cause => Wire.refuse cause

/-- A whole message: header and body. -/
def message (name : String) (kind : Wire.Kind) (sequence : Int32) (body : α) : Bytes :=
  Wire.Encode.header name kind sequence ++ encode body

end Record

end BrowserBridge
