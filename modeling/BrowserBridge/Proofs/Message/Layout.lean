import BrowserBridge.Proofs.Message.RoundTrip

/-!
Layouts: which fields a struct declares, and under which tags.  Decoding looks at nothing
but the last value of each declared id, and only if it has the declared tag.  So a field
of another type changes nothing where it is hidden by a later one or hides nothing; where
it hides a value of the declared type, that value is lost.
-/

namespace BrowserBridge

open Wire

namespace Wire.Fields

/-- What a declared field holds: the last value of its id, if that has the declared tag. -/
def typed? (fields : Fields) (id : Int16) (tag : Tag) : Option Tree :=
  (last? fields id).filter fun tree => tree.tag == tag

/-- The fields with other ids. -/
def without (fields : Fields) (id : Int16) : Fields :=
  fields.filter fun field => field.1 != id

variable {first second : Fields} {id : Int16} {tag : Tag}

/-- What is read off the last value of an id, and takes values of other types for absent,
is read off the typed value. -/
theorem congr_of_typed? {β : Type} (read : Fields → β)
    (hlast : ∀ first second : Fields, last? first id = last? second id →
      read first = read second)
    (hother : ∀ tree : Tree, tree.tag ≠ tag → read [(id, tree)] = read [])
    (h : typed? first id tag = typed? second id tag) : read first = read second := by
  have htyped : ∀ fields : Fields,
      read fields = read ((typed? fields id tag).toList.map (Prod.mk id)) := by
    intro fields
    unfold typed?
    cases hfound : last? fields id with
    | none => exact hlast fields [] hfound
    | some tree =>
        have hsingle : read fields = read [(id, tree)] :=
          hlast fields [(id, tree)] (by rw [hfound, last?_singleton, if_pos rfl])
        by_cases htag : tree.tag = tag
        · simp [Option.filter, htag, hsingle]
        · simp [Option.filter, htag, hsingle, hother tree htag]
  rw [htyped first, htyped second, h]

theorem text?_congr (h : typed? first id .binary = typed? second id .binary) :
    first.text? id = second.text? id := by
  refine congr_of_typed? (fun fields => fields.text? id)
    (fun first second hlast => by rw [text?, text?, hlast]) (fun tree htag => ?_) h
  rw [text?, last?_singleton, if_pos rfl]
  cases tree with
  | binary bytes => exact absurd rfl htag
  | _ => rfl

theorem i32?_congr (h : typed? first id .i32 = typed? second id .i32) :
    first.i32? id = second.i32? id := by
  refine congr_of_typed? (fun fields => fields.i32? id)
    (fun first second hlast => by rw [i32?, i32?, hlast]) (fun tree htag => ?_) h
  rw [i32?, last?_singleton, if_pos rfl]
  cases tree with
  | i32 value => exact absurd rfl htag
  | _ => rfl

theorem bool?_congr (h : typed? first id .bool = typed? second id .bool) :
    first.bool? id = second.bool? id := by
  refine congr_of_typed? (fun fields => fields.bool? id)
    (fun first second hlast => by rw [bool?, bool?, hlast]) (fun tree htag => ?_) h
  rw [bool?, last?_singleton, if_pos rfl]
  cases tree with
  | bool value => exact absurd rfl htag
  | _ => rfl

theorem struct?_congr (h : typed? first id .struct = typed? second id .struct) :
    first.struct? id = second.struct? id := by
  refine congr_of_typed? (fun fields => fields.struct? id)
    (fun first second hlast => by rw [struct?, struct?, hlast]) (fun tree htag => ?_) h
  rw [struct?, last?_singleton, if_pos rfl]
  cases tree with
  | struct inner => exact absurd rfl htag
  | _ => rfl

theorem textList?_congr (h : typed? first id .list = typed? second id .list) :
    first.textList? id = second.textList? id := by
  refine congr_of_typed? (fun fields => fields.textList? id)
    (fun first second hlast => by rw [textList?, textList?, hlast]) (fun tree htag => ?_) h
  rw [textList?, last?_singleton, if_pos rfl]
  cases tree with
  | list elements => exact absurd rfl htag
  | _ => rfl

theorem textSet?_congr (h : typed? first id .set = typed? second id .set) :
    first.textSet? id = second.textSet? id := by
  refine congr_of_typed? (fun fields => fields.textSet? id)
    (fun first second hlast => by rw [textSet?, textSet?, hlast]) (fun tree htag => ?_) h
  rw [textSet?, last?_singleton, if_pos rfl]
  cases tree with
  | set elements => exact absurd rfl htag
  | _ => rfl

theorem ofField?_congr {α : Type} [Record α]
    (h : typed? first id .struct = typed? second id .struct) :
    (Record.ofField? first id : Except Malformed (Option α)) = Record.ofField? second id := by
  rw [Record.ofField?, Record.ofField?, struct?_congr h]

theorem last?_cons (key : Int16) (tree : Tree) (fields : Fields) (id : Int16) :
    last? ((key, tree) :: fields) id =
      (last? fields id).or (if key = id then some tree else none) := by
  rw [← List.singleton_append, last?_append, last?_singleton]

theorem last?_isSome_iff {fields : Fields} {id : Int16} :
    (last? fields id).isSome ↔ ∃ field ∈ fields, field.1 = id := by
  simp [last?]

theorem last?_without (fields : Fields) (key id : Int16) :
    last? (fields.without key) id = if key = id then none else last? fields id := by
  induction fields with
  | nil => exact (ite_self none).symm
  | cons field rest ih =>
      obtain ⟨found, tree⟩ := field
      rw [last?_cons]
      by_cases hfound : found = key
      · subst hfound
        have hdropped : without ((found, tree) :: rest) found = without rest found := by
          simp [without]
        rw [hdropped, ih]
        by_cases hid : found = id <;> simp [hid]
      · have hkept : without ((found, tree) :: rest) key = (found, tree) :: without rest key := by
          simp [without, hfound]
        rw [hkept, last?_cons, ih]
        by_cases hid : key = id
        · subst hid
          simp [hfound]
        · simp [hid]

/-- A field is found if it comes last of those with its id. -/
theorem last?_insert (front back : Fields) (key : Int16) (tree : Tree) (id : Int16) :
    last? (front ++ (key, tree) :: back) id =
      ((last? back id).or (if key = id then some tree else none)).or (last? front id) := by
  rw [last?_append, last?_cons]

/-- A field of another type, put between fields, hides the values before it unless one
comes after it. -/
theorem typed?_insert {front back : Fields} {key : Int16} {tree : Tree} {id : Int16} {tag : Tag}
    (hmistyped : key = id → tree.tag ≠ tag) :
    typed? (front ++ (key, tree) :: back) id tag =
      typed? (if (last? back key).isSome then front ++ back else without (front ++ back) key)
        id tag := by
  unfold typed?
  rw [last?_insert]
  by_cases hlater : (last? back key).isSome
  · rw [if_pos hlater, last?_append]
    by_cases hid : key = id
    · subst hid
      obtain ⟨later, hfound⟩ := Option.isSome_iff_exists.mp hlater
      rw [hfound]
      rfl
    · simp [hid]
  · rw [if_neg hlater, last?_without, last?_append]
    by_cases hid : key = id
    · subst hid
      rw [Option.not_isSome_iff_eq_none] at hlater
      simp [hlater, hmistyped rfl, Option.filter]
    · simp [hid]

end Wire.Fields

/-- The structs that declare their fields: the records, and the struct of a value. -/
inductive Layout where
  | record (schema : Schema)
  | value
  deriving DecidableEq, Repr

namespace Layout

/-- What a struct of the layout is decoded to. -/
abbrev Content : Layout → Type
  | record schema => schema.Content
  | value => Option Value

/-- Decodes a struct of the layout. -/
def decode : (layout : Layout) → Fields → Except Malformed layout.Content
  | record _ => Record.ofFields
  | value => Value.ofFields?

/-- The declared fields of a layout with their tags. -/
def declared : Layout → List (Int16 × Tag)
  | record .noArguments => []
  | record .initializeArguments => [(1, .binary)]
  | record .executeArguments => [(1, .binary), (2, .binary), (3, .binary)]
  | record .layoutArguments =>
      [(1, .binary), (2, .binary), (3, .binary), (4, .list), (5, .list)]
  | record .reportArguments => [(1, .binary)]
  | record .noResult => []
  | record .executeResult => [(0, .struct), (1, .struct)]
  | record .layoutResult => [(0, .i32), (1, .struct)]
  | record .countResult => [(0, .i32)]
  | record .response => [(1, .struct), (2, .binary), (3, .i32), (4, .binary)]
  | record .commandFailure => [(1, .binary)]
  | record .specMissing => [(1, .binary)]
  | record .callFailure => [(1, .binary), (2, .i32)]
  | value => [(1, .binary), (2, .bool), (3, .set)]

/-- No id is declared twice. -/
theorem eq_of_declared (layout : Layout) : ∀ field ∈ layout.declared,
    ∀ other ∈ layout.declared, field.1 = other.1 → field = other := by
  cases layout with
  | value => decide
  | record schema => cases schema <;> decide

/-- The two structs hold the same under every declared field. -/
def Agree (layout : Layout) (first second : Fields) : Prop :=
  ∀ field ∈ layout.declared,
    Fields.typed? first field.1 field.2 = Fields.typed? second field.1 field.2

/-- Decoding sees nothing of a struct but its declared fields. -/
theorem decode_congr {layout : Layout} {first second : Fields} (h : layout.Agree first second) :
    layout.decode first = layout.decode second := by
  cases layout with
  | value =>
      simp only [decode, Value.ofFields?]
      rw [Fields.text?_congr (h (1, .binary) (by decide)),
        Fields.bool?_congr (h (2, .bool) (by decide)),
        Fields.textSet?_congr (h (3, .set) (by decide))]
  | record schema =>
      cases schema with
      | noArguments => rfl
      | noResult => rfl
      | initializeArguments =>
          simp only [decode, Record.ofFields]
          rw [Fields.text?_congr (h (1, .binary) (by decide))]
      | executeArguments =>
          simp only [decode, Record.ofFields]
          rw [Fields.text?_congr (h (1, .binary) (by decide)),
            Fields.text?_congr (h (2, .binary) (by decide)),
            Fields.text?_congr (h (3, .binary) (by decide))]
      | layoutArguments =>
          simp only [decode, Record.ofFields]
          rw [Fields.text?_congr (h (1, .binary) (by decide)),
            Fields.text?_congr (h (2, .binary) (by decide)),
            Fields.text?_congr (h (3, .binary) (by decide)),
            Fields.textList?_congr (h (4, .list) (by decide)),
            Fields.textList?_congr (h (5, .list) (by decide))]
      | reportArguments =>
          simp only [decode, Record.ofFields]
          rw [Fields.text?_congr (h (1, .binary) (by decide))]
      | executeResult =>
          simp only [decode, Record.ofFields]
          rw [Fields.ofField?_congr (h (0, .struct) (by decide)),
            Fields.ofField?_congr (h (1, .struct) (by decide))]
      | layoutResult =>
          simp only [decode, Record.ofFields]
          rw [Fields.i32?_congr (h (0, .i32) (by decide)),
            Fields.ofField?_congr (h (1, .struct) (by decide))]
      | countResult =>
          simp only [decode, Record.ofFields]
          rw [Fields.i32?_congr (h (0, .i32) (by decide))]
      | response =>
          simp only [decode, Record.ofFields]
          rw [Fields.struct?_congr (h (1, .struct) (by decide)),
            Fields.text?_congr (h (2, .binary) (by decide)),
            Fields.i32?_congr (h (3, .i32) (by decide)),
            Fields.text?_congr (h (4, .binary) (by decide))]
      | commandFailure =>
          simp only [decode, Record.ofFields]
          rw [Fields.text?_congr (h (1, .binary) (by decide))]
      | specMissing =>
          simp only [decode, Record.ofFields]
          rw [Fields.text?_congr (h (1, .binary) (by decide))]
      | callFailure =>
          simp only [decode, Record.ofFields]
          rw [Fields.text?_congr (h (1, .binary) (by decide)),
            Fields.i32?_congr (h (2, .i32) (by decide))]

/-- A declared field of another type, put between fields: decoding goes by the fields
after it, and without one it takes the id for absent. -/
theorem decode_insert {layout : Layout} {id : Int16} {tag : Tag} {tree : Tree}
    (hdeclared : (id, tag) ∈ layout.declared) (hmistyped : tree.tag ≠ tag)
    (front back : Fields) :
    layout.decode (front ++ (id, tree) :: back) =
      layout.decode (if (Fields.last? back id).isSome then front ++ back
        else Fields.without (front ++ back) id) := by
  apply decode_congr
  intro field hfield
  apply Fields.typed?_insert
  intro hid
  have hsame : (id, tag) = field := layout.eq_of_declared _ hdeclared _ hfield hid
  rw [← hsame]
  exact hmistyped

/-- An id under which nothing of the declared type is found is as good as absent. -/
theorem decode_without {layout : Layout} {id : Int16} {tag : Tag} {fields : Fields}
    (hdeclared : (id, tag) ∈ layout.declared) (hnone : Fields.typed? fields id tag = none) :
    layout.decode (fields.without id) = layout.decode fields := by
  apply decode_congr
  intro field hfield
  by_cases hid : id = field.1
  · have hsame : (id, tag) = field := layout.eq_of_declared _ hdeclared _ hfield hid
    rw [← hsame, hnone]
    simp [Fields.typed?, Fields.last?_without]
  · simp [Fields.typed?, Fields.last?_without, hid]

/-- Precisely when a declared field of another type is skipped.  It is if a later field
has its id.  If none has, the fields of that id are lost, so it is skipped only if the
struct means the same without them, as it does when the last of them is not of the
declared type either. -/
theorem mistyped_field_skipped_iff (layout : Layout) (front back : Fields) {id : Int16}
    {tag : Tag} {tree : Tree} (hdeclared : (id, tag) ∈ layout.declared)
    (hmistyped : tree.tag ≠ tag) :
    (layout.decode (front ++ (id, tree) :: back) = layout.decode (front ++ back) ↔
      (∃ field ∈ back, field.1 = id) ∨
        layout.decode (Fields.without (front ++ back) id) = layout.decode (front ++ back)) ∧
    ((∀ field ∈ back, field.1 ≠ id) →
      layout.decode (front ++ (id, tree) :: back) =
        layout.decode (Fields.without (front ++ back) id)) ∧
    (Fields.typed? front id tag = none →
      layout.decode (front ++ (id, tree) :: back) = layout.decode (front ++ back)) := by
  have hinsert := decode_insert hdeclared hmistyped front back
  have hnot : (∀ field ∈ back, field.1 ≠ id) ↔ ¬ (Fields.last? back id).isSome := by
    rw [Fields.last?_isSome_iff, not_exists]
    simp
  rw [hinsert, ← Fields.last?_isSome_iff, hnot]
  by_cases hlater : (Fields.last? back id).isSome
  · simp [hlater]
  · rw [if_neg hlater]
    refine ⟨⟨.inr, fun h => h.resolve_left hlater⟩, fun _ => rfl,
      fun hnone => decode_without hdeclared ?_⟩
    rw [Option.not_isSome_iff_eq_none] at hlater
    rw [Fields.typed?, Fields.last?_append, hlater]
    exact hnone

/-- A number under the id of a text, before the text and after it. -/
theorem mistyped_field_skipped_before_text :
    let text : Int16 × Tree := (2, .ofText "title")
    let number : Int16 × Tree := (2, .i32 42)
    (Layout.record .executeArguments).decode [number, text] = .ok ⟨none, some "title", none⟩ ∧
      (Layout.record .executeArguments).decode [number] = .ok ⟨none, none, none⟩ := by
  intro text number
  have hdeclared : ((2, .binary) : Int16 × Tag) ∈ (Layout.record .executeArguments).declared := by
    decide
  have hmistyped : number.2.tag ≠ .binary := by decide
  have hfirst := mistyped_field_skipped_iff (.record .executeArguments) [] [text] hdeclared
    hmistyped
  have hsecond := mistyped_field_skipped_iff (.record .executeArguments) [] [] hdeclared hmistyped
  exact ⟨(hfirst.1.mpr (.inl ⟨text, List.mem_singleton_self _, rfl⟩)).trans rfl,
    (hsecond.2.2 rfl).trans rfl⟩

/-- So not every field of another type is skipped: a number after a text of the same id
takes the text away. -/
theorem mistyped_field_not_always_skipped :
    ¬ ∀ (layout : Layout) (front back : Fields) (id : Int16) (tag : Tag) (tree : Tree),
      (id, tag) ∈ layout.declared → tree.tag ≠ tag →
      layout.decode (front ++ (id, tree) :: back) = layout.decode (front ++ back) := by
  intro h
  have hsame := h (.record .initializeArguments) [(1, .ofText "http://hub:4444")] [] 1 .binary
    (.i32 42) (by decide) (by decide)
  cases hsame

end Layout

end BrowserBridge
