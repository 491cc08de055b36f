import BrowserBridge.Message.Record
import BrowserBridge.Proofs.Wire.Header

/-!
What the encoding of a record is made of.  A piece is the contribution of one member:
the fields it adds to the struct, their bytes and the lengths written among them.
As long as no length is too great for its word, the bytes encode the fields.
-/

namespace BrowserBridge.Wire

theorem Encode.length_eq {n : Nat} (h : n ≤ maxLength) : Encode.length n = bytesOf 4 n := by
  change bytesOf 4 (min n maxLength) = bytesOf 4 n
  rw [Nat.min_eq_left h]

@[simp] theorem Encode.length_length (n : Nat) : (Encode.length n).length = 4 :=
  length_bytesOf 4 _

/-- A text as a value. -/
def Tree.ofText (text : String) : Tree := .binary (Text.encode text)

theorem Tree.text?_ofText (text : String) : (Tree.ofText text).text? = .ok (some text) := by
  simp [Tree.text?, Tree.ofText, Text.decode_encode]

theorem Tree.textsOf_map_ofText (texts : List String) :
    Tree.textsOf (texts.map Tree.ofText) = .ok texts := by
  induction texts with
  | nil => rfl
  | cons head tail ih =>
      simp only [List.map_cons, Tree.textsOf, Tree.text?_ofText, ih]
      rfl

/-- The lengths in front of texts. -/
def textLengths (texts : List String) : List Nat :=
  texts.map fun text => (Text.encode text).length

theorem encodes_text {text : String} (h : (Text.encode text).length ≤ maxLength) :
    Encodes .binary (Tree.ofText text) (Encode.text text) := by
  rw [Encode.text, Encode.length_eq h]
  exact .binary h

theorem encodesEach_texts (texts : List String) (h : ∀ n ∈ textLengths texts, n ≤ maxLength) :
    EncodesEach .binary (texts.map Tree.ofText) (texts.flatMap Encode.text) := by
  induction texts with
  | nil => exact .nil
  | cons head tail ih =>
      rw [textLengths, List.map_cons, List.forall_mem_cons] at h
      exact .cons (encodes_text h.1) (ih h.2)

theorem length_le_flatMap {α : Type} (part : α → Bytes) {a : α} {list : List α} (h : a ∈ list) :
    (part a).length ≤ (list.flatMap part).length := by
  obtain ⟨front, back, rfl⟩ := List.append_of_mem h
  simp only [List.flatMap_append, List.flatMap_cons, List.length_append]
  omega

theorem textLengths_le (texts : List String) :
    ∀ n ∈ textLengths texts, n ≤ (texts.flatMap Encode.text).length := by
  intro n hn
  obtain ⟨text, htext, rfl⟩ := List.mem_map.mp hn
  have hpart := length_le_flatMap Encode.text htext
  simp only [Encode.text, List.length_append] at hpart ⊢
  omega

theorem length_le_length_texts (texts : List String) :
    texts.length ≤ (texts.flatMap Encode.text).length := by
  induction texts with
  | nil => exact Nat.zero_le _
  | cons head tail ih =>
      simp only [List.flatMap_cons, List.length_cons, List.length_append, Encode.text,
        Encode.length_length]
      omega

theorem lengths_texts_le (texts : List String) :
    ∀ n ∈ texts.length :: textLengths texts, n ≤ (Encode.texts texts).length := by
  have hbody : (texts.flatMap Encode.text).length ≤ (Encode.texts texts).length := by
    rw [Encode.texts, List.length_append]
    exact Nat.le_add_left _ _
  rw [List.forall_mem_cons]
  exact ⟨Nat.le_trans (length_le_length_texts texts) hbody,
    fun n hn => Nat.le_trans (textLengths_le texts n hn) hbody⟩

theorem height_texts_le (texts : List String) (levels : Nat) :
    heightOfEach (texts.map Tree.ofText) ≤ levels + 1 := by
  rw [heightOfEach_le_iff]
  intro element helement
  obtain ⟨text, -, rfl⟩ := List.mem_map.mp helement
  exact Nat.succ_pos levels

theorem EncodesFields.append {second : Fields} {back : Bytes}
    (hsecond : EncodesFields second back) :
    ∀ {first : Fields} {front : Bytes}, EncodesFields first front →
      EncodesFields (first ++ second) (front ++ back)
  | _, _, .nil => hsecond
  | _, _, .cons id hvalue htail => by
      rw [List.cons_append, List.append_assoc]
      exact .cons id hvalue (hsecond.append htail)

theorem heightOfFields_append_le {first second : Fields} {most : Nat}
    (hfirst : heightOfFields first ≤ most) (hsecond : heightOfFields second ≤ most) :
    heightOfFields (first ++ second) ≤ most := by
  rw [heightOfFields_le_iff] at *
  intro field hfield
  exact (List.mem_append.mp hfield).elim (hfirst field) (hsecond field)

/-- The contribution of one member to the encoding of a record. -/
structure Piece (levels : Nat) where
  fields : Fields
  bytes : Bytes
  /-- The lengths that are written among the bytes. -/
  lengths : List Nat
  lengths_le : ∀ n ∈ lengths, n ≤ bytes.length
  encodes : (∀ n ∈ lengths, n ≤ maxLength) → EncodesFields fields bytes
  height_le : heightOfFields fields ≤ levels

namespace Piece

variable {levels : Nat}

/-- A member that is left out. -/
def absent : Piece levels where
  fields := []
  bytes := []
  lengths := []
  lengths_le := by simp
  encodes _ := .nil
  height_le := Nat.zero_le _

/-- A member in a field of its own. -/
def field (id : Int16) (tag : Tag) (tree : Tree) (content : Bytes) (lengths : List Nat)
    (hlengths : ∀ n ∈ lengths, n ≤ content.length)
    (hcontent : (∀ n ∈ lengths, n ≤ maxLength) → Encodes tag tree content)
    (hheight : tree.height < levels) : Piece levels where
  fields := [(id, tree)]
  bytes := Encode.field tag id ++ content
  lengths := lengths
  lengths_le n hn := by
    rw [List.length_append]
    exact Nat.le_add_left_of_le (hlengths n hn)
  encodes h := by
    have hone := EncodesFields.cons id (hcontent h) .nil
    rwa [List.append_nil] at hone
  height_le := Nat.max_le.mpr ⟨hheight, Nat.zero_le _⟩

/-- The fields of pieces in order. -/
def fieldsOf (pieces : List (Piece levels)) : Fields := pieces.flatMap Piece.fields

/-- The body of a struct made of pieces. -/
def bodyOf (pieces : List (Piece levels)) : Bytes := pieces.flatMap Piece.bytes ++ Encode.stop

/-- The lengths that are written into a body. -/
def lengthsOf (pieces : List (Piece levels)) : List Nat := pieces.flatMap Piece.lengths

theorem lengthsOf_le (pieces : List (Piece levels)) :
    ∀ n ∈ lengthsOf pieces, n ≤ (bodyOf pieces).length := by
  intro n hn
  obtain ⟨piece, hpiece, hn⟩ := List.mem_flatMap.mp hn
  have hlength := piece.lengths_le n hn
  have hpart := length_le_flatMap Piece.bytes hpiece
  rw [bodyOf, List.length_append]
  omega

theorem encodes_body (pieces : List (Piece levels)) (h : ∀ n ∈ lengthsOf pieces, n ≤ maxLength) :
    Encodes .struct (.struct (fieldsOf pieces)) (bodyOf pieces) := by
  apply Encodes.struct
  induction pieces with
  | nil => exact .nil
  | cons head tail ih =>
      rw [lengthsOf, List.flatMap_cons] at h
      exact (ih fun n hn => h n (List.mem_append_right _ hn)).append
        (head.encodes fun n hn => h n (List.mem_append_left _ hn))

theorem height_fieldsOf_le (pieces : List (Piece levels)) :
    heightOfFields (fieldsOf pieces) ≤ levels := by
  induction pieces with
  | nil => exact Nat.zero_le _
  | cons head tail ih => exact heightOfFields_append_le head.height_le ih

/-- A struct of pieces in a field. -/
def nested {inner : Nat} (id : Int16) (pieces : List (Piece inner)) (h : inner ≤ levels) :
    Piece (levels + 1) :=
  field id .struct (.struct (fieldsOf pieces)) (bodyOf pieces) (lengthsOf pieces)
    (lengthsOf_le pieces) (encodes_body pieces)
    (Nat.lt_succ_of_le (Nat.le_trans (height_fieldsOf_le pieces) h))

/-- A text that may be left out. -/
def text (id : Int16) : Option String → Piece (levels + 1)
  | some value =>
      field id .binary (.ofText value) (Encode.text value) [(Text.encode value).length]
        (by simp [Encode.text]) (fun h => encodes_text (h _ (List.mem_singleton_self _)))
        (Nat.succ_pos _)
  | none => absent

/-- A 32-bit integer that may be left out. -/
def int32 (id : Int16) : Option Int32 → Piece (levels + 1)
  | some value =>
      field id .i32 (.i32 value) (Encode.int32 value) [] (by simp) (fun _ => .i32 value)
        (Nat.succ_pos _)
  | none => absent

/-- A truth value. -/
def flag (id : Int16) (value : Bool) : Piece (levels + 1) :=
  field id .bool (.bool value) (Encode.bool value) [] (by simp)
    (fun _ => match value with
      | false => .bool 0
      | true => .bool 1)
    (Nat.succ_pos _)

/-- Texts in a container. -/
def texts (id : Int16) (tag : Tag) (wrap : List Tree → Tree) (values : List String)
    (hwrap : ∀ elements body, elements.length ≤ maxLength → EncodesEach .binary elements body →
      Encodes tag (wrap elements) (Tag.binary.code :: bytesOf 4 elements.length ++ body))
    (hheight : ∀ elements, (wrap elements).height = heightOfEach elements) :
    Piece (levels + 2) :=
  field id tag (wrap (values.map .ofText)) (Encode.texts values)
    (values.length :: textLengths values) (lengths_texts_le values)
    (fun h => by
      rw [List.forall_mem_cons] at h
      have htexts := hwrap _ _ (by rw [List.length_map]; exact h.1) (encodesEach_texts values h.2)
      rw [List.length_map] at htexts
      rw [Encode.texts, Encode.elements, Encode.length_eq h.1]
      exact htexts)
    (by rw [hheight]; exact Nat.lt_succ_of_le (height_texts_le values levels))

/-- A list of texts. -/
def textList (id : Int16) (values : List String) : Piece (levels + 2) :=
  texts id .list .list values (fun _ _ => .list .binary) (fun _ => rfl)

/-- A set of texts. -/
def textSet (id : Int16) (values : List String) : Piece (levels + 2) :=
  texts id .set .set values (fun _ _ => .set .binary) (fun _ => rfl)

end Piece

end BrowserBridge.Wire
