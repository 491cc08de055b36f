import BrowserBridge.Message.Arguments
import BrowserBridge.Message.Results
import BrowserBridge.Proofs.Message.Piece

/-!
Records whose encodings are read back.  Each record is given as its pieces, and
reading their fields gives the record again, apart from sets that held a text twice.
-/

namespace BrowserBridge

namespace Wire

variable {levels : Nat} {fields : Fields} {id : Int16}

theorem Fields.last?_append (first second : Fields) (id : Int16) :
    Fields.last? (first ++ second) id = (Fields.last? second id).or (Fields.last? first id) := by
  simp [Fields.last?, List.find?_append, Option.map_or]

@[simp] theorem Fields.last?_fieldsOf_nil (id : Int16) :
    Fields.last? (Piece.fieldsOf ([] : List (Piece levels))) id = none := rfl

@[simp] theorem Fields.last?_fieldsOf_cons (head : Piece levels) (tail : List (Piece levels))
    (id : Int16) :
    Fields.last? (Piece.fieldsOf (head :: tail)) id =
      (Fields.last? (Piece.fieldsOf tail) id).or (Fields.last? head.fields id) :=
  Fields.last?_append head.fields (Piece.fieldsOf tail) id

theorem Fields.last?_singleton (key : Int16) (tree : Tree) (id : Int16) :
    Fields.last? [(key, tree)] id = if key = id then some tree else none := by
  by_cases h : key = id <;> simp [Fields.last?, h]

@[simp] theorem Fields.last?_text (key : Int16) (value : Option String) (id : Int16) :
    Fields.last? (Piece.text key value : Piece (levels + 1)).fields id =
      if key = id then value.map Tree.ofText else none := by
  cases value with
  | none => exact (ite_self none).symm
  | some value => exact Fields.last?_singleton key _ id

@[simp] theorem Fields.last?_int32 (key : Int16) (value : Option Int32) (id : Int16) :
    Fields.last? (Piece.int32 key value : Piece (levels + 1)).fields id =
      if key = id then value.map Tree.i32 else none := by
  cases value with
  | none => exact (ite_self none).symm
  | some value => exact Fields.last?_singleton key _ id

@[simp] theorem Fields.last?_flag (key : Int16) (value : Bool) (id : Int16) :
    Fields.last? (Piece.flag key value : Piece (levels + 1)).fields id =
      if key = id then some (.bool value) else none :=
  Fields.last?_singleton key _ id

@[simp] theorem Fields.last?_textList (key : Int16) (values : List String) (id : Int16) :
    Fields.last? (Piece.textList key values : Piece (levels + 2)).fields id =
      if key = id then some (.list (values.map Tree.ofText)) else none :=
  Fields.last?_singleton key _ id

@[simp] theorem Fields.last?_textSet (key : Int16) (values : List String) (id : Int16) :
    Fields.last? (Piece.textSet key values : Piece (levels + 2)).fields id =
      if key = id then some (.set (values.map Tree.ofText)) else none :=
  Fields.last?_singleton key _ id

@[simp] theorem Fields.last?_nested {inner : Nat} (key : Int16) (pieces : List (Piece inner))
    (h : inner ≤ levels) (id : Int16) :
    Fields.last? (Piece.nested key pieces h).fields id =
      if key = id then some (.struct (Piece.fieldsOf pieces)) else none :=
  Fields.last?_singleton key _ id

theorem Fields.text?_of_last? (value : Option String)
    (h : Fields.last? fields id = value.map Tree.ofText) : Fields.text? fields id = .ok value := by
  rw [Fields.text?, h]
  cases value with
  | none => rfl
  | some text => exact Tree.text?_ofText text

theorem Fields.i32?_of_last? (value : Option Int32)
    (h : Fields.last? fields id = value.map Tree.i32) : Fields.i32? fields id = value := by
  rw [Fields.i32?, h]
  cases value <;> rfl

theorem Fields.bool?_of_last? (value : Option Bool)
    (h : Fields.last? fields id = value.map Tree.bool) : Fields.bool? fields id = value := by
  rw [Fields.bool?, h]
  cases value <;> rfl

theorem Fields.textList?_of_last? (values : Option (List String))
    (h : Fields.last? fields id = values.map fun values => .list (values.map Tree.ofText)) :
    Fields.textList? fields id = .ok values := by
  rw [Fields.textList?, h]
  cases values with
  | none => rfl
  | some values =>
      change some <$> Tree.textsOf (values.map Tree.ofText) = _
      rw [Tree.textsOf_map_ofText]
      rfl

theorem Fields.textSet?_of_last? (values : Option (List String))
    (h : Fields.last? fields id = values.map fun values => .set (values.map Tree.ofText)) :
    Fields.textSet? fields id = .ok values := by
  rw [Fields.textSet?, h]
  cases values with
  | none => rfl
  | some values =>
      change some <$> Tree.textsOf (values.map Tree.ofText) = _
      rw [Tree.textsOf_map_ofText]
      rfl

theorem Fields.struct?_of_last? (inner : Option Fields)
    (h : Fields.last? fields id = inner.map Tree.struct) : Fields.struct? fields id = inner := by
  rw [Fields.struct?, h]
  cases inner <;> rfl

@[simp] theorem Piece.bytes_absent : (Piece.absent : Piece levels).bytes = [] := rfl

@[simp] theorem Piece.bytes_text (id : Int16) (value : Option String) :
    (Piece.text id value : Piece (levels + 1)).bytes = Encode.textField id value := by
  cases value <;> rfl

@[simp] theorem Piece.bytes_int32 (id : Int16) (value : Option Int32) :
    (Piece.int32 id value : Piece (levels + 1)).bytes = Encode.int32Field id value := by
  cases value <;> rfl

@[simp] theorem Piece.bytes_textList (id : Int16) (values : List String) :
    (Piece.textList id values : Piece (levels + 2)).bytes = Encode.textListField id values := rfl

@[simp] theorem Piece.bytes_textSet (id : Int16) (values : List String) :
    (Piece.textSet id values : Piece (levels + 2)).bytes =
      Encode.field .set id ++ Encode.texts values := rfl

@[simp] theorem Piece.bytes_flag (id : Int16) (value : Bool) :
    (Piece.flag id value : Piece (levels + 1)).bytes =
      Encode.field .bool id ++ Encode.bool value := rfl

@[simp] theorem Piece.bytes_nested {inner : Nat} (id : Int16) (pieces : List (Piece inner))
    (h : inner ≤ levels) :
    (Piece.nested id pieces h).bytes = Encode.field .struct id ++ Piece.bodyOf pieces := rfl

@[simp] theorem Piece.bodyOf_nil : Piece.bodyOf ([] : List (Piece levels)) = Encode.stop := rfl

@[simp] theorem Piece.bodyOf_cons (head : Piece levels) (tail : List (Piece levels)) :
    Piece.bodyOf (head :: tail) = head.bytes ++ Piece.bodyOf tail :=
  List.append_assoc ..

end Wire

open Wire (Piece Fields)

/-- A record that is encoded in pieces and read back. -/
class LawfulRecord (α : Type) [Record α] where
  /-- How deep values are nested in the record's struct. -/
  levels : Nat
  levels_le : levels ≤ Wire.maxDepth
  pieces : α → List (Piece levels)
  /-- What the encoding is read back as. -/
  settled : α → α
  encode_eq : ∀ a, Record.encode a = Piece.bodyOf (pieces a)
  ofFields_eq : ∀ a, Record.ofFields (Piece.fieldsOf (pieces a)) = .ok (settled a)

namespace Wire.Piece

variable {α : Type} [Record α] [LawfulRecord α] {levels : Nat}

/-- A record that may be left out. -/
def record (id : Int16) (h : LawfulRecord.levels α ≤ levels) : Option α → Piece (levels + 1)
  | some a => nested id (LawfulRecord.pieces a) h
  | none => absent

@[simp] theorem bytes_record (id : Int16) (h : LawfulRecord.levels α ≤ levels) (a : Option α) :
    (record id h a).bytes = Record.encodeField id a := by
  cases a with
  | none => rfl
  | some a => rw [Record.encodeField, LawfulRecord.encode_eq, record, bytes_nested]

@[simp] theorem last?_record (key : Int16) (h : LawfulRecord.levels α ≤ levels) (a : Option α)
    (id : Int16) :
    Fields.last? (record key h a).fields id =
      if key = id then a.map fun a => .struct (fieldsOf (LawfulRecord.pieces a)) else none := by
  cases a with
  | none => exact (ite_self none).symm
  | some a => exact Fields.last?_nested key _ h id

theorem ofField?_of_last? (a : Option α) {fields : Fields} {id : Int16}
    (h : Fields.last? fields id =
      a.map fun a => .struct (fieldsOf (LawfulRecord.pieces a))) :
    Record.ofField? fields id = .ok (a.map LawfulRecord.settled) := by
  have hinner : Fields.struct? fields id = a.map (fieldsOf <| LawfulRecord.pieces ·) :=
    Fields.struct?_of_last? _ (by rw [h, Option.map_map]; rfl)
  rw [Record.ofField?, hinner]
  cases a with
  | none => rfl
  | some a =>
      change some <$> Record.ofFields (fieldsOf (LawfulRecord.pieces a)) = _
      rw [LawfulRecord.ofFields_eq]
      rfl

end Wire.Piece

instance : LawfulRecord NoArguments where
  levels := 0
  levels_le := by decide
  pieces _ := []
  settled := id
  encode_eq _ := rfl
  ofFields_eq _ := rfl

instance : LawfulRecord InitializeArguments where
  levels := 1
  levels_le := by decide
  pieces arguments := [.text 1 arguments.hub]
  settled := id
  encode_eq arguments := by simp [Record.encode]
  ofFields_eq arguments := by
    simp only [Record.ofFields]
    rw [Fields.text?_of_last? arguments.hub (by simp)]
    rfl

instance : LawfulRecord ExecuteArguments where
  levels := 1
  levels_le := by decide
  pieces arguments :=
    [.text 1 arguments.sessionId, .text 2 arguments.command, .text 3 arguments.params]
  settled := id
  encode_eq arguments := by simp [Record.encode]
  ofFields_eq arguments := by
    simp only [Record.ofFields]
    rw [Fields.text?_of_last? arguments.sessionId (by simp),
      Fields.text?_of_last? arguments.command (by simp),
      Fields.text?_of_last? arguments.params (by simp)]
    rfl

instance : LawfulRecord LayoutArguments where
  levels := 2
  levels_le := by decide
  pieces arguments :=
    [.text 1 arguments.test, .text 2 arguments.sessionId, .text 3 arguments.specs,
      .textList 4 arguments.included, .textList 5 arguments.excluded]
  settled := id
  encode_eq arguments := by simp [Record.encode]
  ofFields_eq arguments := by
    simp only [Record.ofFields]
    rw [Fields.text?_of_last? arguments.test (by simp),
      Fields.text?_of_last? arguments.sessionId (by simp),
      Fields.text?_of_last? arguments.specs (by simp),
      Fields.textList?_of_last? (some arguments.included) (by simp),
      Fields.textList?_of_last? (some arguments.excluded) (by simp)]
    rfl

instance : LawfulRecord ReportArguments where
  levels := 1
  levels_le := by decide
  pieces arguments := [.text 1 arguments.folder]
  settled := id
  encode_eq arguments := by simp [Record.encode]
  ofFields_eq arguments := by
    simp only [Record.ofFields]
    rw [Fields.text?_of_last? arguments.folder (by simp)]
    rfl

instance : LawfulRecord CommandFailure where
  levels := 1
  levels_le := by decide
  pieces failure := [.text 1 failure.message]
  settled := id
  encode_eq failure := by simp [Record.encode]
  ofFields_eq failure := by
    simp only [Record.ofFields]
    rw [Fields.text?_of_last? failure.message (by simp)]
    rfl

instance : LawfulRecord SpecMissing where
  levels := 1
  levels_le := by decide
  pieces failure := [.text 1 failure.message]
  settled := id
  encode_eq failure := by simp [Record.encode]
  ofFields_eq failure := by
    simp only [Record.ofFields]
    rw [Fields.text?_of_last? failure.message (by simp)]
    rfl

instance : LawfulRecord CallFailure where
  levels := 1
  levels_le := by decide
  pieces failure := [.text 1 failure.message, .int32 2 (some failure.kind.code)]
  settled := id
  encode_eq failure := by simp [Record.encode]
  ofFields_eq failure := by
    simp only [Record.ofFields]
    rw [Fields.text?_of_last? failure.message (by simp),
      Fields.i32?_of_last? (some failure.kind.code) (by simp), Option.getD_some,
      CallFailureKind.ofCode_code]
    rfl

/-- What a value is read back as: of equal texts in a set the first stays. -/
def Value.settled : Value → Value
  | .texts values => .ofTexts values
  | value => value

/-- The one field of a value's struct. -/
def Value.pieces : Value → List (Piece 2)
  | .text value => [.text 1 (some value)]
  | .flag value => [.flag 2 value]
  | .texts values => [.textSet 3 values]

theorem Value.encodeOption_some (value : Value) :
    Value.encodeOption (some value) = Piece.bodyOf value.pieces := by
  cases value <;> simp [Value.encodeOption, Value.pieces]

theorem Value.ofFields?_pieces (value : Value) :
    Value.ofFields? (Piece.fieldsOf value.pieces) = .ok (some value.settled) := by
  simp only [Value.ofFields?, Value.pieces]
  cases value with
  | text value =>
      rw [Fields.text?_of_last? (some value) (by simp), Fields.bool?_of_last? none (by simp),
        Fields.textSet?_of_last? none (by simp)]
      rfl
  | flag value =>
      rw [Fields.text?_of_last? none (by simp), Fields.bool?_of_last? (some value) (by simp),
        Fields.textSet?_of_last? none (by simp)]
      rfl
  | texts values =>
      rw [Fields.text?_of_last? none (by simp), Fields.bool?_of_last? none (by simp),
        Fields.textSet?_of_last? (some values) (by simp)]
      rfl

/-- A response's value in its field. -/
def Value.piece : Option Value → Piece 3
  | some value => .nested 1 value.pieces (Nat.le_refl 2)
  | none => .absent

theorem Value.last?_piece (value : Option Value) (id : Int16) :
    Fields.last? (Value.piece value).fields id =
      if 1 = id then value.map fun value => .struct (Piece.fieldsOf value.pieces) else none := by
  cases value with
  | none => exact (ite_self none).symm
  | some value => exact Fields.last?_nested 1 value.pieces (Nat.le_refl 2) id

instance : LawfulRecord Response where
  levels := 3
  levels_le := by decide
  pieces response :=
    [Value.piece response.value, .text 2 response.sessionId, .int32 3 response.status,
      .text 4 response.state]
  settled response := { response with value := response.value.map Value.settled }
  encode_eq response := by
    rcases response with ⟨_ | value, _, _, _⟩
    · simp [Record.encode, Value.piece]
    · simp [Record.encode, Value.piece, Value.encodeOption_some]
  ofFields_eq response := by
    simp only [Record.ofFields]
    rw [Fields.struct?_of_last? (response.value.map fun value => Piece.fieldsOf value.pieces)
        (by simp [Value.last?_piece]; rfl),
      Fields.text?_of_last? response.sessionId (by simp [Value.last?_piece]),
      Fields.i32?_of_last? response.status (by simp [Value.last?_piece]),
      Fields.text?_of_last? response.state (by simp [Value.last?_piece])]
    rcases response with ⟨_ | value, _, _, _⟩
    · rfl
    · simp only [Option.map_some, Value.ofFields?_pieces]
      rfl

instance : LawfulRecord NoResult where
  levels := 0
  levels_le := by decide
  pieces _ := []
  settled := id
  encode_eq _ := rfl
  ofFields_eq _ := rfl

instance : LawfulRecord ExecuteResult where
  levels := 4
  levels_le := by decide
  pieces result := [.record 0 (Nat.le_refl 3) result.success, .record 1 (by decide) result.failure]
  settled result := { result with success := result.success.map LawfulRecord.settled }
  encode_eq result := by simp [Record.encode]
  ofFields_eq result := by
    simp only [Record.ofFields]
    rw [Piece.ofField?_of_last? result.success (by simp),
      Piece.ofField?_of_last? result.failure (by simp)]
    rcases result with ⟨_, _ | _⟩ <;> rfl

instance : LawfulRecord LayoutResult where
  levels := 2
  levels_le := by decide
  pieces result := [.int32 0 result.success, .record 1 (Nat.le_refl 1) result.failure]
  settled := id
  encode_eq result := by simp [Record.encode]
  ofFields_eq result := by
    simp only [Record.ofFields]
    rw [Fields.i32?_of_last? result.success (by simp),
      Piece.ofField?_of_last? result.failure (by simp)]
    rcases result with ⟨_, _ | _⟩ <;> rfl

instance : LawfulRecord CountResult where
  levels := 1
  levels_le := by decide
  pieces result := [.int32 0 result.success]
  settled := id
  encode_eq result := by simp [Record.encode]
  ofFields_eq result := by
    simp only [Record.ofFields]
    rw [Fields.i32?_of_last? result.success (by simp)]
    rfl

end BrowserBridge
