import BrowserBridge.Wire.Number
import BrowserBridge.Wire.Tag

/-!
The bytes of the parts of a message.  A length above what 32 signed bits hold is
written as the largest such number, which every reader then refuses.
-/

namespace BrowserBridge.Wire.Encode

def int8 (value : Int8) : Bytes := [value.toUInt8]

def int16 (value : Int16) : Bytes := bytesOf 2 value.toUInt16.toNat

def int32 (value : Int32) : Bytes := bytesOf 4 value.toUInt32.toNat

def bool (value : Bool) : Bytes := [if value then 1 else 0]

def length (n : Nat) : Bytes := bytesOf 4 (min n 0x7FFFFFFF)

/-- A length-prefixed text. -/
def text (value : String) : Bytes :=
  let bytes := Text.encode value
  length bytes.length ++ bytes

/-- The head of a field. -/
def field (tag : Tag) (id : Int16) : Bytes := tag.code :: int16 id

def stop : Bytes := [Tag.stop.code]

/-- The head of a list or a set. -/
def elements (tag : Tag) (n : Nat) : Bytes := tag.code :: length n

/-- A text field, left out if there is none. -/
def textField (id : Int16) : Option String → Bytes
  | some value => field .binary id ++ text value
  | none => []

/-- A 32-bit integer field, left out if there is none. -/
def int32Field (id : Int16) : Option Int32 → Bytes
  | some value => field .i32 id ++ int32 value
  | none => []

/-- Texts under the head of a list or a set. -/
def texts (values : List String) : Bytes :=
  elements .binary values.length ++ values.flatMap text

/-- A field that is a list of texts. -/
def textListField (id : Int16) (values : List String) : Bytes :=
  field .list id ++ texts values

def header (name : String) (kind : Kind) (sequence : Int32) : Bytes :=
  [0x80, 0x01, 0x00, kind.code] ++ text name ++ int32 sequence

end BrowserBridge.Wire.Encode
