import BrowserBridge.Proofs.Message.Layout

/-!
Undeclared fields.  A field whose id a record does not declare may be of any type and hold
anything; put between two fields of an encoded struct it is read over, and the record that
is decoded and the bytes that stay unread are the same as without it.
-/

namespace BrowserBridge

open Wire

namespace Wire

/-- What a read gives, and what it leaves unread. -/
def observed {α : Type} (act : Read α) (reader : Reader) : Except ReadFault α × Bytes :=
  match act reader with
  | .ok a after => (.ok a, after.rest)
  | .error fault stopped => (.error fault, stopped.rest)

/-- No encoded field begins another one. -/
theorem field_unambiguous {tag tag' : Tag} {id id' : Int16} {value value' : Tree}
    {front front' back back' : Bytes} (hvalue : Encodes tag value front)
    (hvalue' : Encodes tag' value' front')
    (heq : tag.code :: bytesOf 2 id.toUInt16.toNat ++ front ++ back =
      tag'.code :: bytesOf 2 id'.toUInt16.toNat ++ front' ++ back') :
    id = id' ∧ value = value' ∧ tag = tag' ∧ front = front' ∧ back = back' := by
  simp only [List.cons_append, List.append_assoc] at heq
  obtain ⟨hcode, hrest⟩ := List.cons.inj heq
  obtain rfl := Tag.code_inj hcode
  obtain ⟨rfl, -, hbehind⟩ := exact_int16.unambiguous rfl rfl hrest
  obtain ⟨rfl, rfl, rfl⟩ := hvalue.unambiguous hvalue' hbehind
  exact ⟨rfl, rfl, rfl, rfl, rfl⟩

/-- Whole fields that the unread bytes begin with are the first fields of the struct that
these bytes begin with.  The end of a struct is no field, so they do not reach beyond it. -/
theorem EncodesFields.split_struct {back rest : Bytes} :
    ∀ {first found : Fields} {front bytes : Bytes}, EncodesFields first front →
      Encodes .struct (.struct found) bytes → front ++ back = bytes ++ rest →
      ∃ second behind, found = first ++ second ∧ Encodes .struct (.struct second) behind ∧
        bytes = front ++ behind ∧ back = behind ++ rest
  | _, found, _, bytes, .nil, hstruct, heq => ⟨found, bytes, rfl, hstruct, rfl, heq⟩
  | _, [], _, _, .cons _ hvalue _, hstruct, heq => by
      rw [encodes_struct_nil_iff.mp hstruct] at heq
      have hstop := Tag.code_inj (List.cons.inj heq).1
      exact absurd hstop hvalue.tag_ne_stop
  | _, _ :: _, _, _, .cons _ hvalue htail, hstruct, heq => by
      obtain ⟨_, _, _, hhead, hothers, rfl⟩ := encodes_struct_cons_iff.mp hstruct
      rw [List.append_assoc, List.append_assoc (_ ++ _)] at heq
      obtain ⟨rfl, rfl, rfl, rfl, hbehind⟩ := field_unambiguous hvalue hhead heq
      obtain ⟨second, behind, rfl, hsecond, rfl, rfl⟩ := htail.split_struct hothers hbehind
      exact ⟨second, behind, rfl, hsecond, (List.append_assoc _ _ _).symm, rfl⟩

/-- Fields in front of an encoded struct make an encoded struct with it. -/
theorem EncodesFields.append_struct {first second : Fields} {front behind : Bytes}
    (hfirst : EncodesFields first front) (hsecond : Encodes .struct (.struct second) behind) :
    Encodes .struct (.struct (first ++ second)) (front ++ behind) := by
  cases hsecond with
  | struct hfields =>
      rw [← List.append_assoc]
      exact .struct (hfields.append hfirst)

/-- Fields that are put between whole fields of an accepted struct and what follows them are
read with it, as long as the limit has room for them and they are not nested too deep. -/
theorem struct_inserted {ending : Ending} {counted limit : Nat} {first inserted found : Fields}
    {front middle back : Bytes} {after : Reader}
    (haccepted : struct ⟨front ++ back, ending, counted, limit⟩ = .ok found after)
    (hboundary : EncodesFields first front) (hinserted : EncodesFields inserted middle)
    (hroom : after.counted + middle.length ≤ limit) (hdepth : heightOfFields inserted ≤ maxDepth) :
    ∃ second, found = first ++ second ∧
      struct ⟨front ++ middle ++ back, ending, counted, limit⟩ =
        .ok (first ++ (inserted ++ second))
          { after with counted := after.counted + middle.length } := by
  obtain ⟨_, ⟨hfound, hheight⟩, htakes⟩ := (exact_struct _ found after).mp haccepted
  obtain ⟨second, behind, rfl, hsecond, rfl, rfl⟩ := hboundary.split_struct hfound htakes.rest
  refine ⟨second, rfl, ?_⟩
  have hwhole : Encodes .struct (.struct (first ++ (inserted ++ second)))
      (front ++ middle ++ behind) := by
    rw [List.append_assoc]
    exact hboundary.append_struct (hinserted.append_struct hsecond)
  have hlow : (Tree.struct (first ++ (inserted ++ second))).height ≤ maxDepth := by
    change heightOfFields _ ≤ maxDepth at hheight ⊢
    rw [heightOfFields_le_iff] at hheight hdepth ⊢
    rw [List.forall_mem_append] at hheight
    rw [List.forall_mem_append, List.forall_mem_append]
    exact ⟨hheight.1, hdepth, hheight.2⟩
  have hspent : after.counted + middle.length = counted + (front ++ middle ++ behind).length := by
    rw [htakes.counted]
    simp only [List.length_append]
    omega
  refine (exact_struct _ _ _).mpr ⟨_, ⟨hwhole, hlow⟩, (List.append_assoc _ _ _).symm, ?_, hspent,
    htakes.ending, htakes.limit⟩
  change (front ++ middle ++ behind).length ≤ limit - counted
  omega

end Wire

/-- A field that the layout does not declare is never looked at. -/
theorem Layout.decode_insert_undeclared {layout : Layout} {id : Int16}
    (hundeclared : ∀ field ∈ layout.declared, field.1 ≠ id) (front back : Fields) (tree : Tree) :
    layout.decode (front ++ (id, tree) :: back) = layout.decode (front ++ back) := by
  apply Layout.decode_congr
  intro field hfield
  have hother : id ≠ field.1 := (hundeclared field hfield).symm
  rw [Fields.typed?, Fields.typed?, Fields.last?_append, Fields.last?_append, Fields.last?_cons,
    if_neg hother, Option.or_none]

/-- Once its struct is read, a record is decoded or refused, and the rest is left. -/
theorem Record.observed_read {α : Type} [Record α] {fields : Fields} {reader after : Reader}
    (h : Wire.struct reader = .ok fields after) :
    observed (Record.read : Read α) reader =
      ((Record.ofFields fields).mapError .malformed, after.rest) := by
  unfold observed Record.read
  rw [bind_of_ok h]
  cases (Record.ofFields fields : Except Malformed α) <;> rfl

/-- Undeclared fields are transparent in the bytes of a record.  A field whose id the record
does not declare, with a value of any type, is put between whole fields of a struct that is
accepted and what follows them.  As long as the limit has room for it and its value is not
nested too deep, the record is decoded or refused alike, and the same bytes stay unread. -/
theorem undeclared_field_transparent (schema : Schema) (ending : Ending) (counted limit : Nat)
    {first found : Fields} {front field back : Bytes} {id : Int16} {tree : Tree} {after : Reader}
    (haccepted : Wire.struct ⟨front ++ back, ending, counted, limit⟩ = .ok found after)
    (hboundary : EncodesFields first front) (hfield : EncodesFields [(id, tree)] field)
    (hundeclared : ∀ declared ∈ (Layout.record schema).declared, declared.1 ≠ id)
    (hroom : after.counted + field.length ≤ limit) (hdepth : tree.height < maxDepth) :
    observed (Record.read : Read schema.Content)
        ⟨front ++ field ++ back, ending, counted, limit⟩ =
      observed Record.read ⟨front ++ back, ending, counted, limit⟩ ∧
    (observed (Record.read : Read schema.Content)
        ⟨front ++ field ++ back, ending, counted, limit⟩).2 = after.rest := by
  have hlow : heightOfFields [(id, tree)] ≤ maxDepth := Nat.max_le.mpr ⟨hdepth, Nat.zero_le _⟩
  obtain ⟨second, rfl, hread⟩ := struct_inserted haccepted hboundary hfield hroom hlow
  have hdecoded : (Record.ofFields (first ++ ([(id, tree)] ++ second)) :
      Except Malformed schema.Content) = Record.ofFields (first ++ second) :=
    Layout.decode_insert_undeclared hundeclared first second tree
  rw [Record.observed_read hread, Record.observed_read haccepted, hdecoded]
  exact ⟨rfl, rfl⟩

/-- A map from bytes that are no text to lists of structs, behind the message of a failure. -/
theorem undeclared_field_transparent_nested_map :
    let front : Bytes := Encode.textField 1 (some "gone")
    let field : Bytes := [13, 0, 9, 11, 15, 0, 0, 0, 1, 0, 0, 0, 1, 255, 12, 0, 0, 0, 0]
    let tree : Tree := .map [(.binary [255], .list [])]
    Wire.struct ⟨front ++ [0, 42], .closed, 3, 40⟩ =
        .ok [(1, .ofText "gone")] ⟨[42], .closed, 15, 40⟩ ∧
      EncodesFields [(9, tree)] field ∧
      observed (Record.read : Read CommandFailure) ⟨front ++ field ++ [0, 42], .closed, 3, 40⟩ =
        (.ok ⟨some "gone"⟩, [42]) := by
  intro front field tree
  have haccepted : Wire.struct ⟨front ++ [0, 42], .closed, 3, 40⟩ =
      .ok [(1, .ofText "gone")] ⟨[42], .closed, 15, 40⟩ := by rfl
  have hkey : Encodes .binary (.binary [255]) [0, 0, 0, 1, 255] := .binary (by decide)
  have hlist : Encodes .list (.list []) [12, 0, 0, 0, 0] := .list .struct (by decide) .nil
  have hentries : EncodesEntries .binary .list [(.binary [255], .list [])]
      [0, 0, 0, 1, 255, 12, 0, 0, 0, 0] := .cons hkey hlist .nil
  have hfield : EncodesFields [(9, tree)] field :=
    .cons 9 (.map .binary .list (by decide) hentries) .nil
  have htext : Encodes .binary (.ofText "gone") (Encode.text "gone") := encodes_text (by decide)
  have hfront : EncodesFields [(1, .ofText "gone")] front :=
    (EncodesFields.cons 1 htext .nil :)
  obtain ⟨hsame, -⟩ := undeclared_field_transparent .commandFailure .closed 3 40 haccepted hfront
    hfield (by decide) (by decide) (by decide)
  exact ⟨haccepted, hfield, hsame.trans (by rfl)⟩

end BrowserBridge
