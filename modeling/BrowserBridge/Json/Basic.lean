/-!
JSON values.  Objects keep their members sorted by key and have one member for a
key.
-/

namespace BrowserBridge

inductive Json where
  | null
  | bool (value : Bool)
  /-- An integer of 64 bits, with or without a sign. -/
  | integer (value : Int)
  /-- Any other number: the bits of a finite double precision number. -/
  | float (bits : UInt64)
  | string (value : String)
  | array (elements : List Json)
  | object (members : List (String × Json))
  deriving BEq, Inhabited

namespace Json

/-- Puts a member in its place; it takes the place of one with the same key. -/
def insertMember (key : String) (value : Json) :
    List (String × Json) → List (String × Json)
  | [] => [(key, value)]
  | (k, v) :: rest =>
    if key = k then (key, value) :: rest
    else if key < k then (key, value) :: (k, v) :: rest
    else (k, v) :: insertMember key value rest

/-- The object with the given members; of members with one key the last stays. -/
def ofMembers (members : List (String × Json)) : Json :=
  .object (members.foldl (fun sorted (key, value) => insertMember key value sorted) [])

def get? : Json → String → Option Json
  | object members, key => (members.find? fun member => member.1 == key).map Prod.snd
  | _, _ => none

end Json

end BrowserBridge
