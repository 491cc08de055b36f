import BrowserBridge.Text.Utf8

/-!
The type tags in front of values and the kinds of messages, with their codes
on the wire.
-/

namespace BrowserBridge.Wire

inductive Tag where
  /-- The end of a struct, not a type. -/
  | stop
  | bool
  | byte
  | double
  | i16
  | i32
  | i64
  /-- Length-prefixed bytes, also used for text. -/
  | binary
  | struct
  | map
  | set
  | list
  deriving DecidableEq, Repr

def Tag.code : Tag → UInt8
  | stop => 0
  | bool => 2
  | byte => 3
  | double => 4
  | i16 => 6
  | i32 => 8
  | i64 => 10
  | binary => 11
  | struct => 12
  | map => 13
  | set => 14
  | list => 15

def Tag.ofCode? (code : UInt8) : Option Tag :=
  match code.toNat with
  | 0 => some stop
  | 2 => some bool
  | 3 => some byte
  | 4 => some double
  | 6 => some i16
  | 8 => some i32
  | 10 => some i64
  | 11 => some binary
  | 12 => some struct
  | 13 => some map
  | 14 => some set
  | 15 => some list
  | _ => none

@[simp] theorem Tag.ofCode?_code (tag : Tag) : Tag.ofCode? tag.code = some tag := by
  cases tag <;> rfl

theorem Tag.ofCode?_eq_some_iff {code : UInt8} {tag : Tag} :
    Tag.ofCode? code = some tag ↔ code = tag.code := by
  constructor
  · intro h
    apply UInt8.toNat.inj
    unfold Tag.ofCode? at h
    split at h <;> cases h <;> assumption
  · rintro rfl
    exact Tag.ofCode?_code tag

theorem Tag.code_inj {first second : Tag} (h : first.code = second.code) : first = second := by
  have hread := Tag.ofCode?_code first
  rw [h, Tag.ofCode?_code] at hread
  exact (Option.some.inj hread).symm

inductive Kind where
  /-- A request that expects a reply. -/
  | call
  /-- A normal reply; its body may still carry a declared failure. -/
  | reply
  /-- A failure of the service in the place of a reply. -/
  | exception
  /-- A request without a reply. -/
  | oneway
  deriving DecidableEq, Repr

def Kind.code : Kind → UInt8
  | call => 1
  | reply => 2
  | exception => 3
  | oneway => 4

def Kind.ofCode? (code : UInt8) : Option Kind :=
  match code.toNat with
  | 1 => some call
  | 2 => some reply
  | 3 => some exception
  | 4 => some oneway
  | _ => none

@[simp] theorem Kind.ofCode?_code (kind : Kind) : Kind.ofCode? kind.code = some kind := by
  cases kind <;> rfl

theorem Kind.ofCode?_eq_some_iff {code : UInt8} {kind : Kind} :
    Kind.ofCode? code = some kind ↔ code = kind.code := by
  constructor
  · intro h
    apply UInt8.toNat.inj
    unfold Kind.ofCode? at h
    split at h <;> cases h <;> assumption
  · rintro rfl
    exact Kind.ofCode?_code kind

/-- The name of a kind in error texts. -/
def Kind.name : Kind → String
  | call => "CALL"
  | reply => "REPLY"
  | exception => "EXCEPTION"
  | oneway => "ONEWAY"

/-- What stands in front of a message's body. -/
structure Header where
  /-- The method called. -/
  name : String
  kind : Kind
  /-- The number of the call, echoed in the reply. -/
  sequence : Int32
  deriving DecidableEq

end BrowserBridge.Wire
