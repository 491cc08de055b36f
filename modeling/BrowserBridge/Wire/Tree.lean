import BrowserBridge.Wire.Malformed

/-!
Values as they stand on the wire, without a schema, and the look-up of fields.
A field is looked up by its id first: the last field with the id decides, and
if its type is not the wanted one the field counts as absent.
-/

namespace BrowserBridge.Wire

/-- A decoded value. -/
inductive Tree where
  | bool (value : Bool)
  | byte (value : Int8)
  /-- A floating point number, as its bits. -/
  | double (bits : UInt64)
  | i16 (value : Int16)
  | i32 (value : Int32)
  | i64 (value : Int64)
  | binary (bytes : Bytes)
  /-- Fields in wire order; an id may occur more than once. -/
  | struct (fields : List (Int16 × Tree))
  | map (entries : List (Tree × Tree))
  | set (elements : List Tree)
  | list (elements : List Tree)
  deriving Inhabited

abbrev Fields := List (Int16 × Tree)

def Tree.tag : Tree → Tag
  | bool _ => .bool
  | byte _ => .byte
  | double _ => .double
  | i16 _ => .i16
  | i32 _ => .i32
  | i64 _ => .i64
  | binary _ => .binary
  | struct _ => .struct
  | map _ => .map
  | set _ => .set
  | list _ => .list

/-- The text of a binary value; `none` for a value of another type. -/
def Tree.text? : Tree → Except Malformed (Option String)
  | binary bytes =>
    match Text.decode bytes with
    | .ok text => .ok (some text)
    | .error fault => .error (.invalidField fault)
  | _ => .ok none

/-- The texts of a sequence, in order; the first element that is none decides
what is wrong. -/
def Tree.textsOf : List Tree → Except Malformed (List String)
  | [] => .ok []
  | element :: rest => do
    match ← element.text? with
    | none => throw .notText
    | some text => return text :: (← textsOf rest)

/-- The texts held by a list or a set; `none` for a value of another type. -/
def Tree.texts? : Tree → Except Malformed (Option (List String))
  | list elements => some <$> textsOf elements
  | set elements => some <$> textsOf elements
  | _ => .ok none

namespace Fields

/-- The last value of an id. -/
def last? (fields : Fields) (id : Int16) : Option Tree :=
  (fields.reverse.find? fun field => field.1 == id).map Prod.snd

def text? (fields : Fields) (id : Int16) : Except Malformed (Option String) :=
  match last? fields id with
  | some tree => tree.text?
  | none => .ok none

def i32? (fields : Fields) (id : Int16) : Option Int32 :=
  match last? fields id with
  | some (.i32 value) => some value
  | _ => none

def bool? (fields : Fields) (id : Int16) : Option Bool :=
  match last? fields id with
  | some (.bool value) => some value
  | _ => none

def struct? (fields : Fields) (id : Int16) : Option Fields :=
  match last? fields id with
  | some (.struct inner) => some inner
  | _ => none

def textList? (fields : Fields) (id : Int16) : Except Malformed (Option (List String)) :=
  match last? fields id with
  | some (.list elements) => some <$> Tree.textsOf elements
  | _ => .ok none

def textSet? (fields : Fields) (id : Int16) : Except Malformed (Option (List String)) :=
  match last? fields id with
  | some (.set elements) => some <$> Tree.textsOf elements
  | _ => .ok none

@[simp] theorem last?_nil (id : Int16) : last? [] id = none := rfl

/-- A field written later hides the earlier ones with its id. -/
theorem last?_append_singleton (fields : Fields) (id key : Int16) (tree : Tree) :
    last? (fields ++ [(key, tree)]) id = if key == id then some tree else last? fields id := by
  by_cases h : key == id <;> simp [last?, h]

end Fields

end BrowserBridge.Wire
