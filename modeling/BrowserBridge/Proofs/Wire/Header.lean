import BrowserBridge.Proofs.Wire.Struct

/-!
Exactness of the header reader, and whole messages: a header and a struct.
-/

namespace BrowserBridge.Wire

/-- The bytes are an encoding of the header. -/
inductive EncodesHeader : Header → Bytes → Prop where
  /-- With the version in front; one byte of it is free. -/
  | strict (spare : UInt8) {header : Header}
      (hlength : (Text.encode header.name).length ≤ maxLength) :
      EncodesHeader header
        ([0x80, 0x01, spare, header.kind.code] ++
          (bytesOf 4 (Text.encode header.name).length ++ Text.encode header.name ++
            bytesOf 4 header.sequence.toUInt32.toNat))
  /-- With the length of the name in front. -/
  | loose {header : Header} (hlength : (Text.encode header.name).length ≤ maxLength) :
      EncodesHeader header
        (bytesOf 4 (Text.encode header.name).length ++
          (Text.encode header.name ++ [header.kind.code] ++
            bytesOf 4 header.sequence.toUInt32.toNat))

/-- What follows the first word of a header with a version. -/
def strictRest (code : UInt8) : Read Header := do
  let kind ← kindOf code
  let name ← textOf (← binary) .invalidText
  return ⟨name, kind, ← int32⟩

/-- What follows the first word of a header without a version. -/
def looseRest (length : Int32) : Read Header := do
  let name ← textOf (← drawLong (← checkLength length)) .invalidName
  let kind ← kindOf (← byte)
  return ⟨name, kind, ← int32⟩

theorem exact_strictRest (code : UInt8) : Exact (strictRest code) fun header bytes =>
    code = header.kind.code ∧ (Text.encode header.name).length ≤ maxLength ∧
      bytes = bytesOf 4 (Text.encode header.name).length ++ Text.encode header.name ++
        bytesOf 4 header.sequence.toUInt32.toNat := by
  refine ((exact_kindOf code).bind fun kind => exact_binary.bind fun content =>
    (exact_textOf content _).bind fun name =>
      exact_int32.bind_pure (Header.mk name kind)).congr fun header bytes => ?_
  constructor
  · intro h
    obtain ⟨kind, _, _, ⟨hcode, rfl⟩, ⟨_, _, _, ⟨hlength, rfl⟩, ⟨name, _, _, ⟨rfl, rfl⟩,
      ⟨sequence, rfl, rfl⟩, rfl⟩, rfl⟩, rfl⟩ := h
    exact ⟨hcode, hlength, by simp⟩
  · intro h
    obtain ⟨hcode, hlength, rfl⟩ := h
    exact ⟨header.kind, [], _, ⟨hcode, rfl⟩, ⟨Text.encode header.name, _, _, ⟨hlength, rfl⟩,
      ⟨header.name, [], _, ⟨rfl, rfl⟩, ⟨header.sequence, rfl, rfl⟩, rfl⟩, rfl⟩, by simp⟩

theorem exact_looseRest (length : Int32) : Exact (looseRest length) fun header bytes =>
    0 ≤ length ∧ length.toNatClampNeg = (Text.encode header.name).length ∧
      bytes = Text.encode header.name ++ [header.kind.code] ++
        bytesOf 4 header.sequence.toUInt32.toNat := by
  have hname (content : Bytes) := (exact_textOf content .invalidName).bind fun name =>
    exact_byte.bind fun code => (exact_kindOf code).bind fun kind =>
      exact_int32.bind_pure (Header.mk name kind)
  refine (exact_checked length
    (fun n reader hroom => (exactOn_drawLong hroom).bind fun content _ middle _ _ =>
      hname content middle) ?_).congr fun header bytes => ?_
  · rintro n header _ ⟨_, front, back, ⟨-, rfl⟩, -, rfl⟩
    simp
  · constructor
    · intro h
      obtain ⟨hpositive, _, _, _, ⟨rfl, hlength⟩, ⟨name, _, _, ⟨rfl, rfl⟩, ⟨_, _, _, rfl, ⟨kind,
        _, _, ⟨rfl, rfl⟩, ⟨sequence, rfl, rfl⟩, rfl⟩, rfl⟩, rfl⟩, rfl⟩ := h
      exact ⟨hpositive, hlength.symm, by simp⟩
    · intro h
      obtain ⟨hpositive, hlength, rfl⟩ := h
      exact ⟨hpositive, _, _, _, ⟨rfl, hlength.symm⟩, ⟨header.name, _, _, ⟨rfl, rfl⟩,
        ⟨_, _, _, rfl, ⟨header.kind, _, _, ⟨rfl, rfl⟩, ⟨header.sequence, rfl, rfl⟩, rfl⟩, rfl⟩,
        rfl⟩, by simp⟩

/-- The words of negative numbers are those above every length. -/
theorem negative_iff {value : Int32} : value < 0 ↔ maxLength < value.toUInt32.toNat := by
  rw [Int32.lt_iff_toInt_lt]
  change value.toBitVec.toInt < 0 ↔ maxLength < value.toBitVec.toNat
  rw [BitVec.toInt_neg_iff]
  change 4294967296 ≤ _ ↔ 2147483647 < _
  omega

/-- The words that carry the version and a code are spelled by the version's two
bytes, any byte and the code. -/
theorem bytesOf_strict_iff {word : Nat} (hword : word < Nat.pow 256 4) {code : UInt8} :
    (word / 0x10000 * 0x10000 = version ∧ UInt8.ofNat word = code) ↔
      ∃ spare, bytesOf 4 word = [0x80, 0x01, spare, code] := by
  have hspell : bytesOf 4 word = [UInt8.ofNat (word / 256 / 256 / 256),
      UInt8.ofNat (word / 256 / 256), UInt8.ofNat (word / 256), UInt8.ofNat word] := rfl
  rw [hspell]
  constructor
  · intro h
    obtain ⟨hversion, rfl⟩ := h
    unfold version at hversion
    change word < 4294967296 at hword
    have hfirst : word / 256 / 256 / 256 = 0x80 := by omega
    have hsecond : UInt8.ofNat (word / 256 / 256) = 0x01 := by
      apply UInt8.toNat.inj
      rw [UInt8.toNat_ofNat']
      change _ = 1
      omega
    exact ⟨UInt8.ofNat (word / 256), by rw [hfirst, hsecond]; rfl⟩
  · intro h
    obtain ⟨spare, h⟩ := h
    obtain ⟨hfirst, hsecond, -, hcode⟩ := by simpa using h
    have hfirst' := congrArg UInt8.toNat hfirst
    have hsecond' := congrArg UInt8.toNat hsecond
    rw [UInt8.toNat_ofNat'] at hfirst' hsecond'
    change word < 4294967296 at hword
    change _ = 128 at hfirst'
    change _ = 1 at hsecond'
    refine ⟨?_, hcode⟩
    unfold version
    omega

theorem bytesOf_inj {width first second : Nat} (hfirst : first < Nat.pow 256 width)
    (hsecond : second < Nat.pow 256 width) (h : bytesOf width first = bytesOf width second) :
    first = second := by
  have hvalue := congrArg valueOf h
  rwa [valueOf_bytesOf, valueOf_bytesOf, Nat.mod_eq_of_lt hfirst, Nat.mod_eq_of_lt hsecond]
    at hvalue

/-- What a header is, given the first word of its encoding. -/
theorem encodesHeader_word_iff {word : Nat} (hword : word < Nat.pow 256 4) {found : Header}
    {back : Bytes} :
    EncodesHeader found (bytesOf 4 word ++ back) ↔
      (Text.encode found.name).length ≤ maxLength ∧
        ((word / 0x10000 * 0x10000 = version ∧ UInt8.ofNat word = found.kind.code ∧
            back = bytesOf 4 (Text.encode found.name).length ++ Text.encode found.name ++
              bytesOf 4 found.sequence.toUInt32.toNat) ∨
          (word = (Text.encode found.name).length ∧
            back = Text.encode found.name ++ [found.kind.code] ++
              bytesOf 4 found.sequence.toUInt32.toNat)) := by
  constructor
  · intro h
    generalize hbytes : bytesOf 4 word ++ back = bytes at h
    cases h with
    | strict spare hlength =>
        obtain ⟨hfront, hback⟩ := List.append_inj hbytes (by simp)
        obtain ⟨hversion, hcode⟩ := (bytesOf_strict_iff hword).mpr ⟨spare, hfront⟩
        exact ⟨hlength, .inl ⟨hversion, hcode, hback⟩⟩
    | loose hlength =>
        obtain ⟨hfront, hback⟩ := List.append_inj hbytes (by simp)
        have hsize : (Text.encode found.name).length < Nat.pow 256 4 :=
          Nat.lt_of_le_of_lt hlength (by decide)
        exact ⟨hlength, .inr ⟨bytesOf_inj hword hsize hfront, hback⟩⟩
  · intro h
    rcases h with ⟨hlength, ⟨hversion, hcode, rfl⟩ | ⟨rfl, rfl⟩⟩
    · obtain ⟨spare, hspell⟩ := (bytesOf_strict_iff hword).mp ⟨hversion, hcode⟩
      rw [hspell]
      exact .strict spare hlength
    · exact .loose hlength

/-- What follows the first word of a header. -/
def headerRest (first : Int32) : Read Header :=
  if first < 0 then
    if first.toUInt32.toNat / 0x10000 * 0x10000 = version then
      strictRest (UInt8.ofNat first.toUInt32.toNat)
    else refuse (.badVersion (first.toUInt32.toNat / 0x10000 * 0x10000))
  else looseRest first

theorem exact_headerRest (first : Int32) : Exact (headerRest first) fun found back =>
    EncodesHeader found (bytesOf 4 first.toUInt32.toNat ++ back) := by
  have hword : first.toUInt32.toNat < Nat.pow 256 4 := first.toUInt32.toNat_lt
  unfold headerRest
  by_cases hnegative : first < 0
  · rw [if_pos hnegative]
    have hlarge := negative_iff.mp hnegative
    by_cases hversion : first.toUInt32.toNat / 0x10000 * 0x10000 = version
    · rw [if_pos hversion]
      refine (exact_strictRest _).congr fun found back => ?_
      rw [encodesHeader_word_iff hword]
      constructor
      · intro h
        obtain ⟨hcode, hlength, hback⟩ := h
        exact ⟨hlength, .inl ⟨hversion, hcode, hback⟩⟩
      · intro h
        rcases h with ⟨hlength, ⟨-, hcode, hback⟩ | ⟨hsame, -⟩⟩
        · exact ⟨hcode, hlength, hback⟩
        · omega
    · rw [if_neg hversion]
      refine (exact_refuse _).congr fun found back => ?_
      rw [encodesHeader_word_iff hword, false_iff]
      intro h
      rcases h with ⟨hlength, ⟨hsame, -⟩ | ⟨hsame, -⟩⟩
      · exact hversion hsame
      · omega
  · rw [if_neg hnegative]
    have hpositive : 0 ≤ first := Int32.not_lt.mp hnegative
    have hsmall := mt negative_iff.mpr hnegative
    refine (exact_looseRest first).congr fun found back => ?_
    rw [encodesHeader_word_iff hword, Int32.toNat_toUInt32_of_le hpositive]
    rw [Int32.toNat_toUInt32_of_le hpositive] at hsmall
    constructor
    · intro h
      obtain ⟨-, hlength, hback⟩ := h
      exact ⟨by omega, .inr ⟨hlength, hback⟩⟩
    · intro h
      rcases h with ⟨hlength, ⟨hversion, -, -⟩ | ⟨hsame, hback⟩⟩
      · unfold version at hversion
        unfold maxLength at hsmall
        omega
      · exact ⟨hpositive, hsame, hback⟩

/-- Any four bytes are the word of a number. -/
theorem exists_word {front : Bytes} (h : front.length = 4) :
    ∃ first : Int32, bytesOf 4 first.toUInt32.toNat = front := by
  have hlt : valueOf front < 4294967296 := by simpa [h] using valueOf_lt front
  refine ⟨(UInt32.ofNat (valueOf front)).toInt32, ?_⟩
  have hspell := bytesOf_valueOf front
  rw [h] at hspell
  simpa [Nat.mod_eq_of_lt hlt] using hspell

/-- A header, whatever was counted before it. -/
theorem exact_header : Exact (int32 >>= headerRest) EncodesHeader := by
  refine (exact_int32.bind exact_headerRest).congr fun found bytes => ?_
  constructor
  · intro h
    obtain ⟨first, _, back, rfl, hback, rfl⟩ := h
    exact hback
  · intro h
    have hlength : 4 ≤ bytes.length := by
      cases h <;> simp
    obtain ⟨first, hfirst⟩ := exists_word (List.length_take_of_le hlength)
    refine ⟨first, bytes.take 4, bytes.drop 4, hfirst.symm, ?_, (List.take_append_drop 4 bytes).symm⟩
    rwa [hfirst, List.take_append_drop]

/-- A header is read precisely if the unread bytes begin with an encoding of it that
fits the limit; what was counted before it does not matter. -/
theorem header_eq_ok_iff {reader after : Reader} {found : Header} :
    header reader = .ok found after ↔
      ∃ bytes, EncodesHeader found bytes ∧
        Reader.Takes { reader with counted := 0 } bytes after :=
  exact_header { reader with counted := 0 } found after

/-- The bytes are a whole message: a header and a struct. -/
def EncodesMessage (found : Header) (fields : Fields) (bytes : Bytes) : Prop :=
  ∃ front back, EncodesHeader found front ∧ Encodes .struct (.struct fields) back ∧
    bytes = front ++ back

/-- The bytes are a whole message of some kind. -/
def IsMessage (bytes : Bytes) : Prop := ∃ found fields, EncodesMessage found fields bytes

/-- No encoding of a value begins another one under the same tag. -/
theorem Encodes.unambiguous {tag : Tag} {first second : Tree} {front front' back back' : Bytes}
    (hfirst : Encodes tag first front) (hsecond : Encodes tag second front')
    (heq : front ++ back = front' ++ back') : first = second ∧ front = front' ∧ back = back' := by
  let levels := max first.height second.height + 1
  exact (readsBelow_value levels tag).unambiguous
    ⟨hfirst, Nat.lt_succ_of_le (Nat.le_max_left _ _)⟩
    ⟨hsecond, Nat.lt_succ_of_le (Nat.le_max_right _ _)⟩ heq

/-- No message begins another one. -/
theorem EncodesMessage.unambiguous {first second : Header} {fields fields' : Fields}
    {front front' back back' : Bytes} (hfirst : EncodesMessage first fields front)
    (hsecond : EncodesMessage second fields' front') (heq : front ++ back = front' ++ back') :
    first = second ∧ fields = fields' ∧ front = front' ∧ back = back' := by
  obtain ⟨head, body, hhead, hbody, rfl⟩ := hfirst
  obtain ⟨head', body', hhead', hbody', rfl⟩ := hsecond
  rw [List.append_assoc, List.append_assoc] at heq
  obtain ⟨rfl, rfl, hrest⟩ := exact_header.unambiguous hhead hhead' heq
  obtain ⟨hstruct, rfl, hback⟩ := hbody.unambiguous hbody' hrest
  exact ⟨rfl, Tree.struct.inj hstruct, rfl, hback⟩

end BrowserBridge.Wire
