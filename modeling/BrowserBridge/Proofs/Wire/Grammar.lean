import BrowserBridge.Wire.Tree
import BrowserBridge.Wire.Writer

/-!
The wire format as a grammar, without a reader: which byte strings are encodings
of a value under the tag that announces it, and how deep values are nested.  A
length is a 32-bit word whose sign bit is clear.
-/

namespace BrowserBridge.Wire

/-- The greatest length that a signed 32-bit word holds. -/
def maxLength : Nat := 0x7FFFFFFF

mutual

/-- The bytes are an encoding of the value under the tag.  No encoding stands under
the tag that ends a struct. -/
inductive Encodes : Tag → Tree → Bytes → Prop where
  /-- Every byte but zero is true. -/
  | bool (b : UInt8) : Encodes .bool (.bool (b != 0)) [b]
  | byte (value : Int8) : Encodes .byte (.byte value) [value.toUInt8]
  | double (bits : UInt64) : Encodes .double (.double bits) (bytesOf 8 bits.toNat)
  | i16 (value : Int16) : Encodes .i16 (.i16 value) (bytesOf 2 value.toUInt16.toNat)
  | i32 (value : Int32) : Encodes .i32 (.i32 value) (bytesOf 4 value.toUInt32.toNat)
  | i64 (value : Int64) : Encodes .i64 (.i64 value) (bytesOf 8 value.toUInt64.toNat)
  | binary {content : Bytes} (hlength : content.length ≤ maxLength) :
      Encodes .binary (.binary content) (bytesOf 4 content.length ++ content)
  | struct {fields : Fields} {body : Bytes} (hfields : EncodesFields fields body) :
      Encodes .struct (.struct fields) (body ++ [Tag.stop.code])
  /-- The tags of an empty container may be any. -/
  | map (keyTag valueTag : Tag) {entries : List (Tree × Tree)} {body : Bytes}
      (hlength : entries.length ≤ maxLength)
      (hentries : EncodesEntries keyTag valueTag entries body) :
      Encodes .map (.map entries)
        (keyTag.code :: valueTag.code :: bytesOf 4 entries.length ++ body)
  | set (elementTag : Tag) {elements : List Tree} {body : Bytes}
      (hlength : elements.length ≤ maxLength)
      (helements : EncodesEach elementTag elements body) :
      Encodes .set (.set elements) (elementTag.code :: bytesOf 4 elements.length ++ body)
  | list (elementTag : Tag) {elements : List Tree} {body : Bytes}
      (hlength : elements.length ≤ maxLength)
      (helements : EncodesEach elementTag elements body) :
      Encodes .list (.list elements) (elementTag.code :: bytesOf 4 elements.length ++ body)

/-- The bytes are encodings of the values, one after the other and all under one tag. -/
inductive EncodesEach : Tag → List Tree → Bytes → Prop where
  | nil {tag : Tag} : EncodesEach tag [] []
  | cons {tag : Tag} {head : Tree} {tail : List Tree} {front back : Bytes}
      (hhead : Encodes tag head front) (htail : EncodesEach tag tail back) :
      EncodesEach tag (head :: tail) (front ++ back)

/-- The bytes are encodings of keys and values in turn. -/
inductive EncodesEntries : Tag → Tag → List (Tree × Tree) → Bytes → Prop where
  | nil {keyTag valueTag : Tag} : EncodesEntries keyTag valueTag [] []
  | cons {keyTag valueTag : Tag} {key value : Tree} {tail : List (Tree × Tree)}
      {front middle back : Bytes} (hkey : Encodes keyTag key front)
      (hvalue : Encodes valueTag value middle)
      (htail : EncodesEntries keyTag valueTag tail back) :
      EncodesEntries keyTag valueTag ((key, value) :: tail) (front ++ middle ++ back)

/-- The bytes are fields, each a tag, an id and an encoding under the tag. -/
inductive EncodesFields : Fields → Bytes → Prop where
  | nil : EncodesFields [] []
  | cons {tag : Tag} (id : Int16) {value : Tree} {tail : Fields} {front back : Bytes}
      (hvalue : Encodes tag value front) (htail : EncodesFields tail back) :
      EncodesFields ((id, value) :: tail)
        (tag.code :: bytesOf 2 id.toUInt16.toNat ++ front ++ back)

end

mutual

/-- How far below a value the deepest value inside it lies. -/
def Tree.height : Tree → Nat
  | .struct fields => heightOfFields fields
  | .map entries => heightOfEntries entries
  | .set elements => heightOfEach elements
  | .list elements => heightOfEach elements
  | _ => 0

/-- How far below a sequence its deepest value lies. -/
def heightOfEach : List Tree → Nat
  | [] => 0
  | head :: tail => max (head.height + 1) (heightOfEach tail)

/-- How far below a map its deepest key or value lies. -/
def heightOfEntries : List (Tree × Tree) → Nat
  | [] => 0
  | (key, value) :: tail => max (max (key.height + 1) (value.height + 1)) (heightOfEntries tail)

/-- How far below a struct its deepest value lies. -/
def heightOfFields : List (Int16 × Tree) → Nat
  | [] => 0
  | (_, value) :: tail => max (value.height + 1) (heightOfFields tail)

end

theorem heightOfEach_le_iff {elements : List Tree} {most : Nat} :
    heightOfEach elements ≤ most ↔ ∀ element ∈ elements, element.height < most := by
  induction elements with
  | nil => simp [heightOfEach]
  | cons head tail ih => simp only [heightOfEach, List.forall_mem_cons, Nat.max_le, Nat.add_one_le_iff, ih]

theorem heightOfFields_le_iff {fields : Fields} {most : Nat} :
    heightOfFields fields ≤ most ↔ ∀ field ∈ fields, field.2.height < most := by
  induction fields with
  | nil => simp [heightOfFields]
  | cons head tail ih =>
      obtain ⟨id, value⟩ := head
      simp only [heightOfFields, List.forall_mem_cons, Nat.max_le, Nat.add_one_le_iff, ih]

/-- Only the end of a struct has the tag that ends structs. -/
theorem Encodes.tag_ne_stop {tag : Tag} {value : Tree} {bytes : Bytes}
    (h : Encodes tag value bytes) : tag ≠ .stop := by
  rintro rfl
  cases h

/-- Every value takes a byte at least, which is what makes the early check of a
count against the bytes that are left harmless. -/
theorem Encodes.length_pos {tag : Tag} {value : Tree} {bytes : Bytes}
    (h : Encodes tag value bytes) : 0 < bytes.length := by
  cases h with
  | binary hlength =>
      rw [List.length_append, length_bytesOf]
      omega
  | _ => simp

theorem EncodesEach.length_le {tag : Tag} :
    ∀ {elements : List Tree} {bytes : Bytes},
      EncodesEach tag elements bytes → elements.length ≤ bytes.length
  | [], _, _ => Nat.zero_le _
  | _ :: _, _, .cons hhead htail => by
      have hpos := hhead.length_pos
      have hrest := htail.length_le
      simp only [List.length_cons, List.length_append]
      omega

theorem EncodesEntries.length_le {keyTag valueTag : Tag} :
    ∀ {entries : List (Tree × Tree)} {bytes : Bytes},
      EncodesEntries keyTag valueTag entries bytes → entries.length ≤ bytes.length
  | [], _, _ => Nat.zero_le _
  | _ :: _, _, .cons hkey _ htail => by
      have hpos := hkey.length_pos
      have hrest := htail.length_le
      simp only [List.length_cons, List.length_append]
      omega

theorem EncodesFields.length_le :
    ∀ {fields : Fields} {bytes : Bytes}, EncodesFields fields bytes → fields.length ≤ bytes.length
  | [], _, _ => Nat.zero_le _
  | _ :: _, _, .cons _ _ htail => by
      have hrest := htail.length_le
      simp only [List.length_cons, List.length_append]
      omega

/-- A struct has fewer fields than bytes. -/
theorem Encodes.fields_lt_length {fields : Fields} {bytes : Bytes}
    (h : Encodes .struct (.struct fields) bytes) : fields.length < bytes.length := by
  cases h with
  | struct hfields =>
      rw [List.length_append, List.length_singleton]
      exact Nat.lt_succ_of_le hfields.length_le

end BrowserBridge.Wire
