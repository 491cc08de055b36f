import BrowserBridge.Proofs.Wire.Exact

/-!
Exactness of the reads that the rest is made of: numbers, tags, kinds, texts and
what stands behind a length.
-/

namespace BrowserBridge.Wire

section

variable {α : Type} {reader after : Reader}

theorem get_bind (next : Reader → Read α) : (get >>= next) reader = next reader reader := rfl

theorem set_bind (other : Reader) (next : PUnit → Read α) :
    (set other >>= next) reader = next ⟨⟩ other := rfl

theorem count_bind (n : Nat) (next : Unit → Read α) :
    (count n >>= next) reader = next () { reader with counted := reader.counted + n } := rfl

theorem draw_eq_ok_iff {n : Nat} {atEnd : IoFault} {content : Bytes} :
    draw n atEnd reader = .ok content after ↔
      content.length = n ∧ reader.rest = content ++ after.rest ∧
        after = { reader with rest := after.rest } := by
  simp only [draw, get_bind, set_bind, List.splitAt_eq]
  constructor
  · intro h
    split at h
    · rename_i hlength
      cases h
      exact ⟨hlength, (List.take_append_drop n reader.rest).symm, rfl⟩
    · cases h
  · intro h
    obtain ⟨hlength, hrest, hafter⟩ := h
    have hfront : reader.rest.take n = content := by simp [hrest, ← hlength]
    have hback : reader.rest.drop n = after.rest := by simp [hrest, ← hlength]
    rw [hfront, hback, if_pos hlength, hafter]
    rfl

/-- Taking bytes that the reader has counted already. -/
theorem draw_eq_ok_iff_takes {n : Nat} {atEnd : IoFault} {content : Bytes}
    (hroom : n ≤ reader.limit - reader.counted) :
    draw n atEnd { reader with counted := reader.counted + n } = .ok content after ↔
      content.length = n ∧ reader.Takes content after := by
  rw [draw_eq_ok_iff]
  constructor
  · intro h
    obtain ⟨hlength, hrest, hafter⟩ := h
    refine ⟨hlength, hrest, by omega, ?_, ?_, ?_⟩
    · rw [hafter, hlength]
    · rw [hafter]
    · rw [hafter]
  · intro h
    obtain ⟨hlength, htakes⟩ := h
    refine ⟨hlength, htakes.rest, ?_⟩
    rw [← htakes.ending, ← htakes.limit, ← hlength, ← htakes.counted]

theorem exact_fixed {n : Nat} (hn : 0 < n) :
    Exact (fixed n) fun content bytes => content = bytes ∧ bytes.length = n := by
  intro reader content after
  simp only [fixed, count_bind, get_bind]
  constructor
  · intro h
    split at h
    · cases h
    · rename_i hlimit
      have hroom : n ≤ reader.limit - reader.counted := by
        change ¬ reader.limit < reader.counted + n at hlimit
        omega
      obtain ⟨hlength, htakes⟩ := (draw_eq_ok_iff_takes hroom).mp h
      exact ⟨content, ⟨rfl, hlength⟩, htakes⟩
  · intro h
    obtain ⟨_, ⟨rfl, hlength⟩, htakes⟩ := h
    have hroom := htakes.room
    rw [hlength] at hroom
    rw [if_neg (by omega)]
    exact (draw_eq_ok_iff_takes hroom).mpr ⟨hlength, htakes⟩

theorem exact_number {width : Nat} (hwidth : 0 < width) :
    Exact (number width) fun n bytes => n < Nat.pow 256 width ∧ bytes = bytesOf width n := by
  refine (exact_fixed hwidth).map.congr fun n bytes => ?_
  constructor
  · intro h
    obtain ⟨_, ⟨rfl, rfl⟩, rfl⟩ := h
    exact ⟨valueOf_lt _, (bytesOf_valueOf _).symm⟩
  · intro h
    obtain ⟨hn, rfl⟩ := h
    refine ⟨_, ⟨rfl, length_bytesOf width n⟩, ?_⟩
    rw [valueOf_bytesOf, Nat.mod_eq_of_lt hn]

/-- Reading a number as something whose codes are all the numbers of the width. -/
theorem exact_number_map {width : Nat} (hwidth : 0 < width) {read : Nat → α} {code : α → Nat}
    (hcode : ∀ a, code a < Nat.pow 256 width ∧ read (code a) = a)
    (hread : ∀ n < Nat.pow 256 width, code (read n) = n) :
    Exact (read <$> number width) fun a bytes => bytes = bytesOf width (code a) := by
  refine (exact_number hwidth).map.congr fun a bytes => ?_
  constructor
  · intro h
    obtain ⟨n, ⟨hn, rfl⟩, rfl⟩ := h
    rw [hread n hn]
  · rintro rfl
    exact ⟨code a, ⟨(hcode a).1, rfl⟩, (hcode a).2⟩

theorem exact_byte : Exact byte fun b bytes => bytes = [b] := by
  have hnumber : Exact byte fun b bytes => bytes = bytesOf 1 b.toNat :=
    exact_number_map (by decide) (fun b => ⟨b.toNat_lt, by simp⟩)
      (fun n hn => by simpa using hn)
  exact hnumber.congr fun b bytes => by simp [bytesOf]

theorem exact_int16 : Exact int16 fun value bytes => bytes = bytesOf 2 value.toUInt16.toNat :=
  exact_number_map (by decide) (fun value => ⟨value.toUInt16.toNat_lt, by simp⟩)
    (fun n hn => by simpa using hn)

theorem exact_int32 : Exact int32 fun value bytes => bytes = bytesOf 4 value.toUInt32.toNat :=
  exact_number_map (by decide) (fun value => ⟨value.toUInt32.toNat_lt, by simp⟩)
    (fun n hn => by simpa using hn)

theorem exact_word64 : Exact word64 fun word bytes => bytes = bytesOf 8 word.toNat :=
  exact_number_map (by decide) (fun word => ⟨word.toNat_lt, by simp⟩)
    (fun n hn => by simpa using hn)

theorem exact_ofCode? (code : UInt8) :
    Exact (match Tag.ofCode? code with
      | some found => return found
      | none => refuse (.unknownTag code) : Read Tag)
      fun found bytes => code = found.code ∧ bytes = [] := by
  cases hfound : Tag.ofCode? code with
  | none =>
      refine (exact_refuse _).congr fun found bytes => ?_
      simp only [false_iff, not_and]
      rintro rfl
      simp at hfound
  | some announced =>
      refine (exact_pure announced).congr fun found bytes => ?_
      rw [← Tag.ofCode?_eq_some_iff, hfound, Option.some.injEq, eq_comm]

theorem exact_tag : Exact tag fun found bytes => bytes = [found.code] := by
  refine (exact_byte.bind exact_ofCode?).congr fun found bytes => ?_
  constructor
  · intro h
    obtain ⟨_, _, _, rfl, ⟨rfl, rfl⟩, rfl⟩ := h
    rfl
  · rintro rfl
    exact ⟨found.code, [found.code], [], rfl, ⟨rfl, rfl⟩, rfl⟩

theorem exact_kindOf (code : UInt8) :
    Exact (kindOf code) fun kind bytes => code = kind.code ∧ bytes = [] := by
  unfold kindOf
  cases hcode : Kind.ofCode? code with
  | none =>
      refine (exact_refuse _).congr fun kind bytes => ?_
      simp only [false_iff, not_and]
      rintro rfl
      simp at hcode
  | some found =>
      refine (exact_pure found).congr fun kind bytes => ?_
      rw [← Kind.ofCode?_eq_some_iff, hcode, Option.some.injEq, eq_comm]

theorem exact_textOf (content : Bytes) (wrong : Text.Utf8Fault → Malformed) :
    Exact (textOf content wrong) fun text bytes => content = Text.encode text ∧ bytes = [] := by
  unfold textOf
  cases hdecode : Text.decode content with
  | error fault =>
      refine (exact_refuse _).congr fun text bytes => ?_
      simp only [false_iff, not_and]
      rintro rfl
      simp [Text.decode_encode] at hdecode
  | ok found =>
      refine (exact_pure found).congr fun text bytes => ?_
      rw [← Text.decode_eq_ok_iff, hdecode, Except.ok.injEq, eq_comm]

/-- Lengths pass the check if they are not negative and there is room for as many
bytes. -/
theorem checkLength_eq_ok_iff {length : Int32} {n : Nat} :
    checkLength length reader = .ok n after ↔
      0 ≤ length ∧ n = length.toNatClampNeg ∧ n ≤ reader.limit - reader.counted ∧
        after = reader := by
  unfold checkLength
  by_cases hnegative : length < 0
  · rw [if_pos hnegative]
    constructor
    · intro h
      cases h
    · intro h
      obtain ⟨h, -⟩ := h
      exact absurd hnegative (Int32.not_lt.mpr h)
  · rw [if_neg hnegative, get_bind]
    constructor
    · intro h
      split at h
      · cases h
      · rename_i hroom
        cases h
        exact ⟨Int32.not_lt.mp hnegative, rfl, Nat.not_lt.mp hroom, rfl⟩
    · intro h
      obtain ⟨-, rfl, hroom, rfl⟩ := h
      rw [if_neg (Nat.not_lt.mpr hroom)]
      rfl

/-- What stands behind a checked length.  The check asks for no more room than the
read itself needs, provided that its format has no fewer bytes than the length
says. -/
theorem exact_checked {next : Nat → Read α} {format : Nat → α → Bytes → Prop} (length : Int32)
    (hnext : ∀ n reader, n ≤ reader.limit - reader.counted → ExactOn reader (next n) (format n))
    (hlength : ∀ n a bytes, format n a bytes → n ≤ bytes.length) :
    Exact (checkLength length >>= next) fun a bytes =>
      0 ≤ length ∧ format length.toNatClampNeg a bytes := by
  intro reader a after
  rw [bind_eq_ok_iff]
  constructor
  · intro h
    obtain ⟨n, middle, hcheck, hok⟩ := h
    obtain ⟨hpositive, rfl, hroom, rfl⟩ := checkLength_eq_ok_iff.mp hcheck
    obtain ⟨bytes, hformat, htakes⟩ := (hnext _ _ hroom a after).mp hok
    exact ⟨bytes, ⟨hpositive, hformat⟩, htakes⟩
  · intro h
    obtain ⟨bytes, ⟨hpositive, hformat⟩, htakes⟩ := h
    have hroom := Nat.le_trans (hlength _ _ _ hformat) htakes.room
    exact ⟨_, reader, checkLength_eq_ok_iff.mpr ⟨hpositive, rfl, hroom, rfl⟩,
      (hnext _ reader hroom a after).mpr ⟨bytes, hformat, htakes⟩⟩

/-- What stands behind a length that is itself read. -/
theorem exact_prefixed {next : Nat → Read α} {format : Nat → α → Bytes → Prop}
    (hnext : ∀ n reader, n ≤ reader.limit - reader.counted → ExactOn reader (next n) (format n))
    (hlength : ∀ n a bytes, format n a bytes → n ≤ bytes.length) :
    Exact (do next (← checkLength (← int32))) fun a bytes =>
      ∃ n body, n ≤ maxLength ∧ format n a body ∧ bytes = bytesOf 4 n ++ body := by
  refine (exact_int32.bind fun length => exact_checked length hnext hlength).congr
    fun a bytes => ?_
  constructor
  · intro h
    obtain ⟨length, _, body, rfl, ⟨hpositive, hformat⟩, rfl⟩ := h
    refine ⟨_, body, Nat.le_of_lt_succ length.toNatClampNeg_lt, hformat, ?_⟩
    rw [Int32.toNat_toUInt32_of_le hpositive]
  · intro h
    obtain ⟨n, body, hn, hformat, rfl⟩ := h
    have hlt : n < 2147483648 := Nat.lt_succ_of_le hn
    have hpositive : 0 ≤ Int32.ofNat n := by
      rw [Int32.le_iff_toInt_le, Int32.toInt_ofNat_of_lt hlt]
      exact Int.natCast_nonneg n
    have hsame : (Int32.ofNat n).toNatClampNeg = n := Int32.toNatClampNeg_ofNat_of_lt hlt
    refine ⟨Int32.ofNat n, _, body, rfl, ⟨hpositive, by rwa [hsame]⟩, ?_⟩
    rw [Int32.toNat_toUInt32_of_le hpositive, hsame]

theorem exactOn_drawLong {n : Nat} (hroom : n ≤ reader.limit - reader.counted) :
    ExactOn reader (drawLong n) fun content bytes => content = bytes ∧ bytes.length = n := by
  intro content after
  change draw n cutShort { reader with counted := reader.counted + n } = .ok content after ↔ _
  rw [draw_eq_ok_iff_takes hroom]
  constructor
  · intro h
    obtain ⟨hlength, htakes⟩ := h
    exact ⟨content, ⟨rfl, hlength⟩, htakes⟩
  · intro h
    obtain ⟨_, ⟨rfl, hlength⟩, htakes⟩ := h
    exact ⟨hlength, htakes⟩

theorem exact_binary : Exact binary fun content bytes =>
    content.length ≤ maxLength ∧ bytes = bytesOf 4 content.length ++ content := by
  have hprefixed := exact_prefixed (fun n reader hroom => exactOn_drawLong (n := n) hroom)
    fun n content bytes h => Nat.le_of_eq h.2.symm
  refine hprefixed.congr fun content bytes => ?_
  constructor
  · intro h
    obtain ⟨n, _, hn, ⟨rfl, rfl⟩, rfl⟩ := h
    exact ⟨hn, rfl⟩
  · intro h
    obtain ⟨hlength, rfl⟩ := h
    exact ⟨content.length, content, hlength, ⟨rfl, rfl⟩, rfl⟩

end

end BrowserBridge.Wire
