import BrowserBridge.Json.Printer

/-!
Reading typed values off JSON, with the cause where the JSON has another shape.
A record is read off an object or off an array with its fields in order.  An
object's members are read in the order of their keys, and the first that is wrong
decides the cause; unknown members do not matter.
-/

namespace BrowserBridge.Json

/-- What a JSON value is, in error texts. -/
def describe : Json → String
  | null => "null"
  | bool value => "boolean `" ++ (if value then "true" else "false") ++ "`"
  | integer n => "integer `" ++ integerText n ++ "`"
  | float bits => "floating point `" ++ floatText bits ++ "`"
  | string text => "string " ++ Text.quoted text
  | array _ => "sequence"
  | object _ => "map"

/-- Why a JSON value has not the wanted shape. -/
inductive Misfit where
  | type (found : Json) (expected : String)
  | value (found : Json) (expected : String)
  /-- A name stands where a name with a value belongs. -/
  | bareVariant
  | missing (field : String)
  | length (found : Nat) (expected : String)
  | variant (name : String) (known : List String)
  | unknownCommand (name : String)
  | blankSessionId
  /-- Found by someone else and only passed on. -/
  | reported (text : String)

def Misfit.message : Misfit → String
  | type found expected => "invalid type: " ++ describe found ++ ", expected " ++ expected
  | value found expected => "invalid value: " ++ describe found ++ ", expected " ++ expected
  | bareVariant => "invalid type: unit variant, expected newtype variant"
  | missing field => "missing field `" ++ field ++ "`"
  | length found expected => "invalid length " ++ toString found ++ ", expected " ++ expected
  | variant name known =>
    "unknown variant `" ++ name ++ "`, expected one of " ++
      ", ".intercalate (known.map fun known => "`" ++ known ++ "`")
  | unknownCommand name => "unrecognised command " ++ name
  | blankSessionId => "session id must not be empty"
  | reported text => text

/-- Typed reading of JSON. -/
abbrev Shaped (α : Type) := Except Misfit α

def asBool : Json → Shaped Bool
  | bool value => .ok value
  | found => .error (.type found "a boolean")

def asString : Json → Shaped String
  | string text => .ok text
  | found => .error (.type found "a string")

def asPath : Json → Shaped String
  | string text => .ok text
  | found => .error (.type found "path string")

/-- Reads an integer in a range that has a name. -/
def asIntegerIn (least most : Int) (name : String) : Json → Shaped Int
  | integer n =>
    if least ≤ n && n ≤ most then .ok n else .error (.value (integer n) name)
  | found => .error (.type found name)

def asUInt16 (json : Json) : Shaped UInt16 :=
  (fun n => UInt16.ofNat n.toNat) <$> asIntegerIn 0 0xFFFF "u16" json

def asUInt64 (json : Json) : Shaped UInt64 :=
  (fun n => UInt64.ofNat n.toNat) <$> asIntegerIn 0 0xFFFFFFFFFFFFFFFF "u64" json

def asInt32 (json : Json) : Shaped Int32 :=
  Int32.ofInt <$> asIntegerIn (-0x80000000) 0x7FFFFFFF "i32" json

def asStrings : Json → Shaped (List String)
  | array elements => elements.mapM asString
  | found => .error (.type found "a sequence")

/-- Reads what may be null. -/
def asOption {α : Type} (read : Json → Shaped α) : Json → Shaped (Option α)
  | null => .ok none
  | json => some <$> read json

/-- Reads a record by putting its fields into a start value one after the other.
In an array more elements than fields are too many; fewer leave the start
value's. -/
def asRecord {α : Type} (name : String) (fields : List String)
    (put : α → String → Json → Shaped α) (start : α) : Json → Shaped α
  | object members => members.foldlM (fun record (key, json) => put record key json) start
  | array elements => do
    let record ← (fields.zip elements).foldlM (fun record (key, json) => put record key json) start
    if fields.length < elements.length then
      throw (.length elements.length "fewer elements in array")
    else return record
  | found => .error (.type found ("struct " ++ name))

/-- Reads one of several named alternatives that each have a value. -/
def asVariant {α : Type} (known : List (String × (Json → Shaped α))) : Json → Shaped α
  | object [(name, json)] =>
    match known.lookup name with
    | some read => read json
    | none => .error (.variant name (known.map Prod.fst))
  | object members => .error (.value (object members) "map with a single key")
  | string name =>
    match known.lookup name with
    | some _ => .error .bareVariant
    | none => .error (.variant name (known.map Prod.fst))
  | found => .error (.type found "string or map")

end BrowserBridge.Json
