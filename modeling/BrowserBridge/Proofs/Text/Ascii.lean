import BrowserBridge.Text.Utf8
import Mathlib.Tactic.SplitIfs

/-!
Bytes below 0x80 in text.  In well-formed text such a byte is a character of its own, so
the text may be cut there.  Anywhere it ends the ill-formed sequence that stands before it,
if there is one, and is read as itself.
-/

namespace BrowserBridge.Text

theorem encode_eq_flatMap (text : String) :
    encode text = text.toList.flatMap String.utf8EncodeChar := by
  have hbytes : text.toUTF8 = (text.toList.flatMap String.utf8EncodeChar).toByteArray := by
    rw [String.toUTF8_eq_toByteArray, ← String.utf8Encode_toList]
    rfl
  rw [encode, hbytes]
  simp

theorem encode_append (left right : String) :
    encode (left ++ right) = encode left ++ encode right := by
  simp only [encode_eq_flatMap, String.toList_append, List.flatMap_append]

/-- The bytes that a character or an ill-formed sequence goes on with are there. -/
theorem more_le_length (first : UInt8) (rest : Bytes) :
    match head first rest with
    | .scalar _ more => more ≤ rest.length
    | .broken more => more ≤ rest.length
    | .cut => True := by
  rcases rest with _ | ⟨second, _ | ⟨third, _ | ⟨fourth, rest⟩⟩⟩ <;>
    simp only [head] <;> split_ifs <;> simp

section Ascii

variable {byte : UInt8} (hascii : byte < 0x80)

include hascii

theorem not_le_of_ascii {bound : UInt8} (hbound : 0x80 ≤ bound) : ¬ bound ≤ byte :=
  fun hle => UInt8.not_le.mpr hascii (UInt8.le_trans hbound hle)

/-- Bytes of an encoding of several bytes are at least 0x80. -/
theorem eq_of_mem_utf8EncodeChar {c : Char} (hmem : byte ∈ String.utf8EncodeChar c) :
    String.utf8EncodeChar c = [byte] ∧ c = Char.ofNat byte.toNat := by
  have hnat : byte.toNat < 128 := UInt8.lt_iff_toNat_lt.mp hascii
  have hother : ∀ n, 128 ≤ n → n < 256 → byte ≠ UInt8.ofNat n := by
    rintro n hlow hhigh rfl
    rw [UInt8.toNat_ofNat'] at hnat
    omega
  revert hmem
  fun_cases String.utf8EncodeChar c with
  | case1 v hsmall =>
      intro hmem
      have hbyte : byte = UInt8.ofNat v := List.mem_singleton.mp hmem
      have htoNat : byte.toNat = v := by
        rw [hbyte, UInt8.toNat_ofNat']
        omega
      rw [htoNat]
      exact ⟨by rw [hbyte], (Char.ofNat_toNat c).symm⟩
  | case2 v | case3 v | case4 v =>
      intro hmem
      exact absurd hmem (by
        simp (disch := omega) only [hother, List.mem_cons, List.not_mem_nil, or_self,
          not_false_eq_true])

theorem encode_singleton :
    encode (String.singleton (Char.ofNat byte.toNat)) = [byte] := by
  have hnat : byte.toNat < 128 := UInt8.lt_iff_toNat_lt.mp hascii
  have hval : (Char.ofNat byte.toNat).val.toNat = byte.toNat := by
    have hvalid : byte.toNat.isValidChar := .inl (by omega)
    rw [Char.ofNat, dif_pos hvalid]
    rfl
  rw [encode_eq_flatMap, String.toList_singleton, List.flatMap_singleton,
    String.utf8EncodeChar]
  simp only [hval]
  rw [if_pos (by omega), UInt8.ofNat_toNat]

/-- Well-formed characters may be cut at a byte below 0x80. -/
theorem flatMap_utf8EncodeChar_cut {chars : List Char} {front back : Bytes}
    (h : chars.flatMap String.utf8EncodeChar = front ++ byte :: back) :
    ∃ left right, chars = left ++ Char.ofNat byte.toNat :: right ∧
      left.flatMap String.utf8EncodeChar = front ∧
      right.flatMap String.utf8EncodeChar = back := by
  induction chars generalizing front with
  | nil => simp at h
  | cons c chars ih =>
      rw [List.flatMap_cons] at h
      rcases List.append_eq_append_iff.mp h with ⟨more, hfront, hrest⟩ | ⟨more, hchar, hrest⟩
      · obtain ⟨left, right, hchars, hleft, hright⟩ := ih hrest
        exact ⟨c :: left, right, by rw [hchars]; rfl, by rw [List.flatMap_cons, hleft, hfront],
          hright⟩
      · cases more with
        | nil =>
            have hlater : chars.flatMap String.utf8EncodeChar = [] ++ byte :: back := hrest.symm
            obtain ⟨left, right, hchars, hleft, hright⟩ := ih hlater
            refine ⟨c :: left, right, by rw [hchars]; rfl, ?_, hright⟩
            rw [List.flatMap_cons, hleft, hchar, List.append_nil, List.append_nil]
        | cons other more =>
            obtain ⟨rfl, hback⟩ := List.cons.inj hrest
            have hmem : byte ∈ String.utf8EncodeChar c := by rw [hchar]; simp
            obtain ⟨hsingle, hc⟩ := eq_of_mem_utf8EncodeChar hascii hmem
            rw [hsingle] at hchar
            cases front with
            | nil =>
                obtain ⟨-, hmore⟩ := List.cons.inj hchar
                refine ⟨[], chars, by rw [hc]; rfl, rfl, ?_⟩
                rw [hback, ← hmore]
                rfl
            | cons => simp at hchar

/-- Well-formed text may be cut before and after a byte below 0x80. -/
theorem encode_cut {text : String} {front back : Bytes}
    (h : encode text = front ++ byte :: back) :
    ∃ left right, text = left ++ String.singleton (Char.ofNat byte.toNat) ++ right ∧
      encode left = front ∧ encode right = back := by
  rw [encode_eq_flatMap] at h
  obtain ⟨left, right, hchars, hleft, hright⟩ := flatMap_utf8EncodeChar_cut hascii h
  refine ⟨String.ofList left, String.ofList right, ?_, ?_, ?_⟩
  · rw [← String.toList_inj]
    simpa using hchars
  · rw [encode_eq_flatMap, String.toList_ofList, hleft]
  · rw [encode_eq_flatMap, String.toList_ofList, hright]

theorem isContinuation_of_ascii : isContinuation byte = false := by
  simp [isContinuation, not_le_of_ascii hascii]

theorem fitsThree_of_ascii (first : UInt8) : fitsThree first byte = false := by
  simp [fitsThree, isContinuation_of_ascii hascii, not_le_of_ascii hascii]

theorem fitsFour_of_ascii (first : UInt8) : fitsFour first byte = false := by
  simp [fitsFour, isContinuation_of_ascii hascii, not_le_of_ascii hascii]

/-- What bytes begin with does not change with a byte below 0x80 behind them, except that an
encoding that the end cut off is broken there. -/
theorem head_append_ascii (first : UInt8) (rest : Bytes) :
    head first (rest ++ [byte]) =
      match head first rest with
      | .scalar c more => .scalar c more
      | .broken more => .broken more
      | .cut => .broken rest.length := by
  have hnone := isContinuation_of_ascii hascii
  have hthree := fitsThree_of_ascii hascii first
  have hfour := fitsFour_of_ascii hascii first
  rcases rest with _ | ⟨second, _ | ⟨third, _ | ⟨fourth, rest⟩⟩⟩ <;>
    simp only [head, List.nil_append, List.cons_append, hnone, hthree, hfour] <;>
    split_ifs <;> simp_all

theorem scalars_singleton : scalars [byte] = [Char.ofNat byte.toNat] := by
  rw [scalars, head, if_pos hascii]
  simp [scalars]

/-- A byte below 0x80 behind other bytes is read as itself. -/
theorem scalars_append_ascii {bytes : Bytes} :
    scalars (bytes ++ [byte]) = scalars bytes ++ [Char.ofNat byte.toNat] := by
  fun_induction scalars bytes with
  | case1 => exact scalars_singleton hascii
  | case2 first rest c more hhead ih | case3 first rest more hhead ih =>
      have hmore := more_le_length first rest
      have happend := head_append_ascii hascii first rest
      rw [hhead] at hmore happend
      rw [List.cons_append, scalars]
      simp only [happend]
      rw [List.drop_append_of_le_length hmore, ih]
      rfl
  | case4 first rest hhead =>
      have happend := head_append_ascii hascii first rest
      rw [hhead] at happend
      rw [List.cons_append, scalars]
      simp only [happend]
      rw [List.drop_left, scalars_singleton hascii]
      rfl

/-- A byte below 0x80 at the end adds its character, whatever stands before it. -/
theorem decodeLossy_append_ascii {bytes : Bytes} :
    decodeLossy (bytes ++ [byte]) =
      decodeLossy bytes ++ String.singleton (Char.ofNat byte.toNat) := by
  cases hdecode : decode bytes with
  | ok text =>
      have hbytes : bytes ++ [byte] =
          encode (text ++ String.singleton (Char.ofNat byte.toNat)) := by
        rw [encode_append, encode_singleton hascii, decode_eq_ok_iff.mp hdecode]
      rw [hbytes, decodeLossy_encode, decodeLossy, hdecode]
  | error fault =>
      cases hlonger : decode (bytes ++ [byte]) with
      | ok text =>
          obtain ⟨left, right, -, hleft, -⟩ :=
            encode_cut hascii (decode_eq_ok_iff.mp hlonger).symm
          rw [← hleft, decode_encode] at hdecode
          cases hdecode
      | error other =>
          simp only [decodeLossy, hdecode, hlonger]
          rw [scalars_append_ascii hascii, ← String.toList_inj]
          simp

end Ascii

end BrowserBridge.Text
