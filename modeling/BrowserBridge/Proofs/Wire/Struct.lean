import BrowserBridge.Proofs.Wire.Scalar

/-!
Exactness of the reader of values and structs.  The depth that is left decides how
high a value may be, and the bound on the number of fields never decides anything,
since every field takes a byte.
-/

namespace BrowserBridge.Wire

section

variable {α β : Type}

theorem Exact.bind_pure {act : Read α} {format : α → Bytes → Prop} (f : α → β)
    (h : Exact act format) :
    Exact (act >>= fun a => pure (f a)) fun b bytes => ∃ a, format a bytes ∧ f a = b := by
  refine (h.bind fun a => exact_pure (f a)).congr fun b bytes => ?_
  constructor
  · intro h
    obtain ⟨a, front, _, hfront, ⟨rfl, rfl⟩, rfl⟩ := h
    exact ⟨a, by rwa [List.append_nil], rfl⟩
  · intro h
    obtain ⟨a, hbytes, rfl⟩ := h
    exact ⟨a, bytes, [], hbytes, ⟨rfl, rfl⟩, (List.append_nil bytes).symm⟩

/-- A number of equal reads, for a format of lists that is taken apart at the head. -/
theorem exact_times {read : Read α} {format : α → Bytes → Prop} {many : List α → Bytes → Prop}
    (hread : Exact read format) (hnil : ∀ bytes, many [] bytes ↔ bytes = [])
    (hcons : ∀ head tail bytes, many (head :: tail) bytes ↔
      ∃ front back, format head front ∧ many tail back ∧ bytes = front ++ back) (n : Nat) :
    Exact (times n read) fun list bytes => list.length = n ∧ many list bytes := by
  induction n with
  | zero =>
      refine (exact_pure []).congr fun list bytes => ?_
      constructor
      · intro h
        obtain ⟨rfl, rfl⟩ := h
        exact ⟨rfl, (hnil []).mpr rfl⟩
      · intro h
        obtain ⟨hlength, hmany⟩ := h
        obtain rfl := List.length_eq_zero_iff.mp hlength
        exact ⟨rfl, (hnil bytes).mp hmany⟩
  | succ n ih =>
      refine (hread.bind fun head => ih.bind_pure (head :: ·)).congr fun list bytes => ?_
      constructor
      · intro h
        obtain ⟨head, front, back, hhead, ⟨tail, ⟨rfl, htail⟩, rfl⟩, rfl⟩ := h
        exact ⟨rfl, (hcons head tail _).mpr ⟨front, back, hhead, htail, rfl⟩⟩
      · intro h
        obtain ⟨hlength, hmany⟩ := h
        cases list with
        | nil => cases hlength
        | cons head tail =>
            obtain ⟨front, back, hhead, htail, rfl⟩ := (hcons head tail bytes).mp hmany
            exact ⟨head, front, back, hhead, ⟨tail, ⟨Nat.succ.inj hlength, htail⟩, rfl⟩, rfl⟩

end

theorem encodes_struct_nil_iff {bytes : Bytes} :
    Encodes .struct (.struct []) bytes ↔ bytes = [Tag.stop.code] := by
  constructor
  · intro h
    cases h with
    | struct hfields =>
        cases hfields
        rfl
  · rintro rfl
    exact .struct .nil

theorem encodes_struct_cons_iff {id : Int16} {head : Tree} {tail : Fields} {bytes : Bytes} :
    Encodes .struct (.struct ((id, head) :: tail)) bytes ↔
      ∃ tag front back, Encodes tag head front ∧ Encodes .struct (.struct tail) back ∧
        bytes = tag.code :: bytesOf 2 id.toUInt16.toNat ++ front ++ back := by
  constructor
  · intro h
    cases h with
    | struct hfields =>
        cases hfields with
        | cons id hhead htail =>
            exact ⟨_, _, _, hhead, .struct htail, List.append_assoc ..⟩
  · intro h
    obtain ⟨tag, front, _, hhead, htail, rfl⟩ := h
    cases htail with
    | struct hfields =>
        rw [← List.append_assoc]
        exact .struct (.cons id hhead hfields)

/-- A struct begins with the tag of its first field or with its end. -/
theorem Encodes.starts_with_tag {found : Fields} {bytes : Bytes}
    (h : Encodes .struct (.struct found) bytes) :
    ∃ (tag : Tag) (back : Bytes), bytes = tag.code :: back := by
  cases found with
  | nil => exact ⟨.stop, [], encodes_struct_nil_iff.mp h⟩
  | cons field tail =>
      obtain ⟨tag, front, back, -, -, heq⟩ := encodes_struct_cons_iff.mp h
      exact ⟨tag, _, heq⟩

/-- The read takes one value under the tag, and only if it is low enough. -/
def ReadsBelow (levels : Nat) (tag : Tag) (read : Read Tree) : Prop :=
  Exact read fun tree bytes => Encodes tag tree bytes ∧ tree.height < levels

variable {levels : Nat}

theorem exact_elements {tag : Tag} {read : Read Tree} (hread : ReadsBelow levels tag read)
    (n : Nat) :
    Exact (times n read) fun elements bytes =>
      elements.length = n ∧ EncodesEach tag elements bytes ∧ heightOfEach elements ≤ levels := by
  apply exact_times hread
  · intro bytes
    constructor
    · intro h
      obtain ⟨⟨⟩, -⟩ := h
      rfl
    · rintro rfl
      exact ⟨.nil, Nat.zero_le _⟩
  · intro head tail bytes
    constructor
    · intro h
      obtain ⟨heach, hbelow⟩ := h
      obtain ⟨hhead, htail⟩ := Nat.max_le.mp hbelow
      cases heach with
      | cons hfront hback => exact ⟨_, _, ⟨hfront, hhead⟩, ⟨hback, htail⟩, rfl⟩
    · intro h
      obtain ⟨front, back, ⟨hfront, hhead⟩, ⟨hback, htail⟩, rfl⟩ := h
      exact ⟨.cons hfront hback, Nat.max_le.mpr ⟨hhead, htail⟩⟩

theorem exact_pair {α β : Type} {first : Read α} {second : Read β} {format : α → Bytes → Prop}
    {other : β → Bytes → Prop} (hfirst : Exact first format) (hsecond : Exact second other) :
    Exact (Prod.mk <$> first <*> second) fun pair bytes =>
      ∃ front back, format pair.1 front ∧ other pair.2 back ∧ bytes = front ++ back := by
  change Exact ((Prod.mk <$> first) >>= fun pair => pair <$> second) _
  refine (hfirst.map.bind fun pair => hsecond.map).congr fun pair bytes => ?_
  constructor
  · intro h
    obtain ⟨_, front, back, ⟨a, hfront, rfl⟩, ⟨b, hback, rfl⟩, rfl⟩ := h
    exact ⟨front, back, hfront, hback, rfl⟩
  · intro h
    obtain ⟨front, back, hfront, hback, rfl⟩ := h
    exact ⟨_, front, back, ⟨pair.1, hfront, rfl⟩, ⟨pair.2, hback, rfl⟩, rfl⟩

theorem exact_entries {keyTag valueTag : Tag} {readKey readValue : Read Tree}
    (hkey : ReadsBelow levels keyTag readKey) (hvalue : ReadsBelow levels valueTag readValue)
    (n : Nat) :
    Exact (times n (Prod.mk <$> readKey <*> readValue)) fun entries bytes =>
      entries.length = n ∧ EncodesEntries keyTag valueTag entries bytes ∧
        heightOfEntries entries ≤ levels := by
  apply exact_times (exact_pair hkey hvalue)
  · intro bytes
    constructor
    · intro h
      obtain ⟨⟨⟩, -⟩ := h
      rfl
    · rintro rfl
      exact ⟨.nil, Nat.zero_le _⟩
  · rintro ⟨key, value⟩ tail bytes
    constructor
    · intro h
      obtain ⟨hentries, hbelow⟩ := h
      obtain ⟨hhead, htail⟩ := Nat.max_le.mp hbelow
      obtain ⟨hkeyBelow, hvalueBelow⟩ := Nat.max_le.mp hhead
      cases hentries with
      | cons hfront hmiddle hback =>
          exact ⟨_, _, ⟨_, _, ⟨hfront, hkeyBelow⟩, ⟨hmiddle, hvalueBelow⟩, rfl⟩, ⟨hback, htail⟩, rfl⟩
    · intro h
      obtain ⟨_, back, ⟨front, middle, ⟨hfront, hkeyBelow⟩, ⟨hmiddle, hvalueBelow⟩, rfl⟩, ⟨hback,
        htail⟩, rfl⟩ := h
      exact ⟨.cons hfront hmiddle hback,
        Nat.max_le.mpr ⟨Nat.max_le.mpr ⟨hkeyBelow, hvalueBelow⟩, htail⟩⟩

/-- What may follow a struct's next tag: the rest of the struct, whose fields are
fewer than `most` and low enough. -/
def AfterTag (levels most : Nat) (tag : Tag) (found : Fields) (bytes : Bytes) : Prop :=
  found.length < most ∧ Encodes .struct (.struct found) (tag.code :: bytes) ∧
    heightOfFields found ≤ levels

theorem exact_afterTag_stop (most : Nat) :
    Exact (pure []) (AfterTag levels (most + 1) .stop) := by
  refine (exact_pure []).congr fun found bytes => ?_
  constructor
  · intro h
    obtain ⟨rfl, rfl⟩ := h
    exact ⟨Nat.succ_pos _, encodes_struct_nil_iff.mpr rfl, Nat.zero_le _⟩
  · intro h
    obtain ⟨-, hfound, -⟩ := h
    cases found with
    | nil => exact ⟨rfl, (List.cons.inj (encodes_struct_nil_iff.mp hfound)).2⟩
    | cons head tail =>
        obtain ⟨tag, _, _, hhead, -, heq⟩ := encodes_struct_cons_iff.mp hfound
        have htag : tag = .stop := Tag.code_inj (List.cons.inj heq).1.symm
        exact absurd htag hhead.tag_ne_stop

theorem exact_afterTag_field {tag : Tag} {read : Read Tree} {most : Nat} {next : Read Fields}
    (hread : ReadsBelow levels tag read) (htag : tag ≠ .stop)
    (hnext : Exact next fun found bytes =>
      found.length < most ∧ Encodes .struct (.struct found) bytes ∧
        heightOfFields found ≤ levels) :
    Exact (do
      let id ← int16
      let head ← read
      return (id, head) :: (← next)) (AfterTag levels (most + 1) tag) := by
  refine (exact_int16.bind fun id => hread.bind fun head =>
    hnext.bind_pure ((id, head) :: ·)).congr fun found bytes => ?_
  constructor
  · intro h
    obtain ⟨id, _, _, rfl, ⟨head, front, back, ⟨hhead, hheight⟩, ⟨tail, ⟨hlength, htail, hbelow⟩,
      rfl⟩, rfl⟩, rfl⟩ := h
    refine ⟨Nat.succ_lt_succ hlength,
      encodes_struct_cons_iff.mpr ⟨tag, front, back, hhead, htail, ?_⟩,
      Nat.max_le.mpr ⟨hheight, hbelow⟩⟩
    simp only [List.cons_append, List.append_assoc]
  · intro h
    obtain ⟨hlength, hfound, hbelow⟩ := h
    cases found with
    | nil =>
        have hstop := (List.cons.inj (encodes_struct_nil_iff.mp hfound)).1
        exact absurd (Tag.code_inj hstop) htag
    | cons field tail =>
        obtain ⟨first, front, back, hhead, htail, heq⟩ := encodes_struct_cons_iff.mp hfound
        obtain ⟨hfirst, rfl⟩ := List.cons.inj heq
        obtain rfl := Tag.code_inj hfirst
        obtain ⟨hheight, hrest⟩ := Nat.max_le.mp hbelow
        exact ⟨field.1, _, front ++ back, rfl, ⟨field.2, front, back, ⟨hhead, hheight⟩,
          ⟨tail, ⟨Nat.lt_of_succ_lt_succ hlength, htail, hrest⟩, rfl⟩, rfl⟩,
          List.append_assoc ..⟩

/-- Fields up to the end of the struct, fewer than `most`. -/
theorem exact_fields {read : Tag → Read Tree} (hread : ∀ tag, ReadsBelow levels tag (read tag))
    (most : Nat) :
    Exact (fields read most) fun found bytes =>
      found.length < most ∧ Encodes .struct (.struct found) bytes ∧
        heightOfFields found ≤ levels := by
  induction most with
  | zero =>
      intro reader found after
      constructor
      · intro h
        cases h
      · intro h
        obtain ⟨_, ⟨h, -⟩, _⟩ := h
        exact absurd h (Nat.not_lt_zero _)
  | succ most ih =>
      have hafter (tag : Tag) : Exact
          (if tag = .stop then pure []
            else do
              let id ← int16
              let head ← read tag
              return (id, head) :: (← fields read most))
          (AfterTag levels (most + 1) tag) := by
        by_cases htag : tag = .stop
        · rw [if_pos htag, htag]
          exact exact_afterTag_stop most
        · rw [if_neg htag]
          exact exact_afterTag_field (hread tag) htag ih
      refine (exact_tag.bind hafter).congr fun found bytes => ?_
      constructor
      · intro h
        obtain ⟨tag, _, back, rfl, hfound, rfl⟩ := h
        exact hfound
      · intro h
        obtain ⟨hlength, hfound, hbelow⟩ := h
        obtain ⟨tag, back, rfl⟩ := hfound.starts_with_tag
        exact ⟨tag, [tag.code], back, rfl, ⟨hlength, hfound, hbelow⟩, rfl⟩

/-- With one field more allowed than the limit has bytes, the number of fields
decides nothing: each of them takes a byte. -/
theorem exact_struct_fields {read : Tag → Read Tree}
    (hread : ∀ tag, ReadsBelow levels tag (read tag)) :
    Exact (do fields read ((← get).limit + 1)) fun found bytes =>
      Encodes .struct (.struct found) bytes ∧ heightOfFields found ≤ levels := by
  intro reader found after
  rw [get_bind, exact_fields hread (reader.limit + 1) reader found after]
  constructor
  · intro h
    obtain ⟨bytes, ⟨-, hfound⟩, htakes⟩ := h
    exact ⟨bytes, hfound, htakes⟩
  · intro h
    obtain ⟨bytes, ⟨hfound, hbelow⟩, htakes⟩ := h
    refine ⟨bytes, ⟨?_, hfound, hbelow⟩, htakes⟩
    have hcount := hfound.fields_lt_length
    have hroom := htakes.room
    omega

/-- A list behind its length. -/
theorem exact_counted {α : Type} {many : Nat → Read (List α)} {format : List α → Bytes → Prop}
    (hmany : ∀ n, Exact (many n) fun list bytes => list.length = n ∧ format list bytes)
    (hlength : ∀ list bytes, format list bytes → list.length ≤ bytes.length)
    (wrap : List α → Tree) :
    Exact (do
      let n ← checkLength (← int32)
      wrap <$> many n) fun tree bytes =>
        ∃ list body, list.length ≤ maxLength ∧ format list body ∧
          bytes = bytesOf 4 list.length ++ body ∧ wrap list = tree := by
  refine (exact_prefixed (fun n reader _ => (hmany n).map (f := wrap) reader) ?_).congr
    fun tree bytes => ?_
  · rintro n _ bytes ⟨list, ⟨rfl, hformat⟩, rfl⟩
    exact hlength list bytes hformat
  · constructor
    · intro h
      obtain ⟨_, body, hn, ⟨list, ⟨rfl, hformat⟩, rfl⟩, rfl⟩ := h
      exact ⟨list, body, hn, hformat, rfl, rfl⟩
    · intro h
      obtain ⟨list, body, hn, hformat, rfl, rfl⟩ := h
      exact ⟨list.length, body, hn, ⟨list, ⟨rfl, hformat⟩, rfl⟩, rfl⟩

/-- A value without values inside it. -/
theorem readsBelow_scalar {α : Type} {tag : Tag} {read : Read α} {format : α → Bytes → Prop}
    {wrap : α → Tree} (hread : Exact read format) (hheight : ∀ a, (wrap a).height = 0)
    (hencodes : ∀ a bytes, format a bytes → Encodes tag (wrap a) bytes)
    (hformat : ∀ tree bytes, Encodes tag tree bytes → ∃ a, format a bytes ∧ wrap a = tree) :
    ReadsBelow (levels + 1) tag (wrap <$> read) := by
  refine hread.map.congr fun tree bytes => ?_
  constructor
  · intro h
    obtain ⟨a, ha, rfl⟩ := h
    refine ⟨hencodes a bytes ha, ?_⟩
    rw [hheight]
    exact Nat.succ_pos _
  · intro h
    exact hformat tree bytes h.1

theorem readsBelow_struct {read : Tag → Read Tree}
    (hread : ∀ tag, ReadsBelow levels tag (read tag)) :
    ReadsBelow (levels + 1) .struct (.struct <$> do fields read ((← get).limit + 1)) := by
  refine (exact_struct_fields hread).map.congr fun tree bytes => ?_
  constructor
  · intro h
    obtain ⟨found, ⟨hfound, hbelow⟩, rfl⟩ := h
    exact ⟨hfound, Nat.lt_succ_of_le hbelow⟩
  · intro h
    obtain ⟨htree, hbelow⟩ := h
    cases htree with
    | struct hfields => exact ⟨_, ⟨.struct hfields, Nat.le_of_lt_succ hbelow⟩, rfl⟩

theorem readsBelow_map {read : Tag → Read Tree}
    (hread : ∀ tag, ReadsBelow levels tag (read tag)) :
    ReadsBelow (levels + 1) .map (do
      let keyTag ← tag
      let valueTag ← tag
      let n ← checkLength (← int32)
      .map <$> times n (Prod.mk <$> read keyTag <*> read valueTag)) := by
  refine (exact_tag.bind fun keyTag => exact_tag.bind fun valueTag =>
    exact_counted (exact_entries (hread keyTag) (hread valueTag))
      (fun _ _ h => h.1.length_le) .map).congr fun tree bytes => ?_
  constructor
  · intro h
    obtain ⟨keyTag, _, _, rfl, ⟨valueTag, _, _, rfl,
      ⟨list, body, hlength, ⟨hentries, hbelow⟩, rfl, rfl⟩, rfl⟩, rfl⟩ := h
    exact ⟨.map keyTag valueTag hlength hentries, Nat.lt_succ_of_le hbelow⟩
  · intro h
    obtain ⟨htree, hbelow⟩ := h
    cases htree with
    | map keyTag valueTag hlength hentries =>
        exact ⟨keyTag, _, _, rfl, ⟨valueTag, _, _, rfl,
          ⟨_, _, hlength, ⟨hentries, Nat.le_of_lt_succ hbelow⟩, rfl, rfl⟩, rfl⟩, rfl⟩

/-- Lists and sets: values of one type behind their tag and their number. -/
theorem readsBelow_elements {container : Tag} {read : Tag → Read Tree} {wrap : List Tree → Tree}
    (hread : ∀ tag, ReadsBelow levels tag (read tag))
    (hheight : ∀ elements, (wrap elements).height = heightOfEach elements)
    (hencodes : ∀ tree bytes, Encodes container tree bytes ↔
      ∃ elementTag elements body, elements.length ≤ maxLength ∧
        EncodesEach elementTag elements body ∧
        bytes = elementTag.code :: bytesOf 4 elements.length ++ body ∧ wrap elements = tree) :
    ReadsBelow (levels + 1) container (do
      let elementTag ← tag
      let n ← checkLength (← int32)
      wrap <$> times n (read elementTag)) := by
  refine (exact_tag.bind fun elementTag => exact_counted (exact_elements (hread elementTag))
    (fun _ _ h => h.1.length_le) wrap).congr fun tree bytes => ?_
  rw [hencodes]
  constructor
  · intro h
    obtain ⟨elementTag, _, _, rfl, ⟨elements, body, hlength, ⟨heach, hbelow⟩, rfl, rfl⟩, rfl⟩ := h
    refine ⟨⟨elementTag, elements, body, hlength, heach, rfl, rfl⟩, ?_⟩
    rw [hheight]
    exact Nat.lt_succ_of_le hbelow
  · intro h
    obtain ⟨⟨elementTag, elements, body, hlength, heach, rfl, rfl⟩, hbelow⟩ := h
    rw [hheight] at hbelow
    exact ⟨elementTag, _, _, rfl,
      ⟨elements, body, hlength, ⟨heach, Nat.le_of_lt_succ hbelow⟩, rfl, rfl⟩, rfl⟩

theorem encodes_set_iff (tree : Tree) (bytes : Bytes) :
    Encodes .set tree bytes ↔
      ∃ elementTag elements body, elements.length ≤ maxLength ∧
        EncodesEach elementTag elements body ∧
        bytes = elementTag.code :: bytesOf 4 elements.length ++ body ∧ .set elements = tree := by
  constructor
  · intro h
    cases h with
    | set elementTag hlength heach => exact ⟨elementTag, _, _, hlength, heach, rfl, rfl⟩
  · intro h
    obtain ⟨elementTag, elements, body, hlength, heach, rfl, rfl⟩ := h
    exact .set elementTag hlength heach

theorem encodes_list_iff (tree : Tree) (bytes : Bytes) :
    Encodes .list tree bytes ↔
      ∃ elementTag elements body, elements.length ≤ maxLength ∧
        EncodesEach elementTag elements body ∧
        bytes = elementTag.code :: bytesOf 4 elements.length ++ body ∧ .list elements = tree := by
  constructor
  · intro h
    cases h with
    | list elementTag hlength heach => exact ⟨elementTag, _, _, hlength, heach, rfl, rfl⟩
  · intro h
    obtain ⟨elementTag, elements, body, hlength, heach, rfl, rfl⟩ := h
    exact .list elementTag hlength heach

/-- The reader of values is exact at every depth. -/
theorem readsBelow_value (levels : Nat) : ∀ tag, ReadsBelow levels tag (value levels tag) := by
  induction levels with
  | zero =>
      intro tag
      refine (exact_refuse .tooDeep).congr fun tree bytes => ?_
      simp
  | succ levels ih =>
      intro tag
      cases tag with
      | stop =>
          refine (exact_refuse .unexpectedStop).congr fun tree bytes => ?_
          simp only [false_iff, not_and]
          intro h
          cases h
      | bool =>
          apply readsBelow_scalar exact_byte (fun _ => rfl)
          · rintro b _ rfl
            exact .bool b
          · intro _ _ h
            cases h
            exact ⟨_, rfl, rfl⟩
      | byte =>
          apply readsBelow_scalar exact_byte (fun _ => rfl)
          · rintro b _ rfl
            simpa using Encodes.byte b.toInt8
          · intro _ _ h
            cases h
            exact ⟨_, rfl, by simp⟩
      | double =>
          apply readsBelow_scalar exact_word64 (fun _ => rfl)
          · rintro word _ rfl
            exact .double word
          · intro _ _ h
            cases h
            exact ⟨_, rfl, rfl⟩
      | i16 =>
          apply readsBelow_scalar exact_int16 (fun _ => rfl)
          · rintro value _ rfl
            exact .i16 value
          · intro _ _ h
            cases h
            exact ⟨_, rfl, rfl⟩
      | i32 =>
          apply readsBelow_scalar exact_int32 (fun _ => rfl)
          · rintro value _ rfl
            exact .i32 value
          · intro _ _ h
            cases h
            exact ⟨_, rfl, rfl⟩
      | i64 =>
          apply readsBelow_scalar exact_word64 (fun _ => rfl)
          · rintro word _ rfl
            simpa using Encodes.i64 word.toInt64
          · intro _ _ h
            cases h
            exact ⟨_, rfl, by simp⟩
      | binary =>
          apply readsBelow_scalar exact_binary (fun _ => rfl)
          · rintro content _ ⟨hlength, rfl⟩
            exact .binary hlength
          · intro _ _ h
            cases h with
            | binary hlength => exact ⟨_, ⟨hlength, rfl⟩, rfl⟩
      | struct => exact readsBelow_struct ih
      | map => exact readsBelow_map ih
      | set => exact readsBelow_elements ih (fun _ => rfl) encodes_set_iff
      | list => exact readsBelow_elements ih (fun _ => rfl) encodes_list_iff

/-- The reader of structs is exact for the structs whose values are nested no deeper
than allowed. -/
theorem exact_struct : Exact struct fun found bytes =>
    Encodes .struct (.struct found) bytes ∧ (Tree.struct found).height ≤ maxDepth :=
  exact_struct_fields (readsBelow_value maxDepth)

/-- A struct is read with nothing left over but `after.rest` precisely if the unread
bytes begin with an encoding of it that fits what is left of the limit and is nested
no deeper than allowed.  In particular no check of a length or a count refuses an
encoding that fits. -/
theorem struct_eq_ok_iff (unread : Bytes) (ending : Ending) (counted limit : Nat) (found : Fields)
    (after : Reader) :
    struct ⟨unread, ending, counted, limit⟩ = .ok found after ↔
      ∃ bytes, unread = bytes ++ after.rest ∧ Encodes .struct (.struct found) bytes ∧
        bytes.length ≤ limit - counted ∧ (Tree.struct found).height ≤ maxDepth ∧
        after = ⟨after.rest, ending, counted + bytes.length, limit⟩ := by
  rw [exact_struct ⟨unread, ending, counted, limit⟩ found after]
  constructor
  · intro h
    obtain ⟨bytes, ⟨hfound, hheight⟩, htakes⟩ := h
    refine ⟨bytes, htakes.rest, hfound, htakes.room, hheight, ?_⟩
    exact htakes.unique ⟨htakes.rest, htakes.room, rfl, rfl, rfl⟩
  · intro h
    obtain ⟨bytes, hrest, hfound, hroom, hheight, hafter⟩ := h
    rw [hafter]
    exact ⟨bytes, ⟨hfound, hheight⟩, hrest, hroom, rfl, rfl, rfl⟩

end BrowserBridge.Wire
