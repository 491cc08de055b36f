import BrowserBridge.Proofs.Text.Ascii
import BrowserBridge.Url.Percent

/-!
Percent encoding leaves none of the characters that it is there for, and a text without
them is left as it is.  Decoding undoes nothing where there is no percent sign.
-/

namespace BrowserBridge.Percent

/-- A set of characters that encoding can take away: what is written for them is not of the
set. -/
structure IsRemovable (isEncoded : Char → Bool) : Prop where
  mark : isEncoded '%' = false
  digit : ∀ n < 16, isEncoded (hexDigit n) = false

theorem isRemovable_inUserInfo : IsRemovable inUserInfo := ⟨by decide, by decide⟩

theorem isRemovable_inPath : IsRemovable inPath := ⟨by decide, by decide⟩

theorem isRemovable_inQuery : IsRemovable inQuery := ⟨by decide, by decide⟩

theorem isRemovable_inFragment : IsRemovable inFragment := ⟨by decide, by decide⟩

/-- What is written is one of the characters that stay, a percent sign or a digit. -/
theorem mem_encode {isEncoded : Char → Bool} {text : List Char} {c : Char}
    (h : c ∈ encode isEncoded text) :
    (c ∈ text ∧ isEncoded c = false) ∨ c = '%' ∨ ∃ n < 16, c = hexDigit n := by
  obtain ⟨original, horiginal, hwritten⟩ := List.mem_flatMap.mp h
  split at hwritten
  · obtain ⟨byte, -, hbyte⟩ := List.mem_flatMap.mp hwritten
    have hvalue : byte.toNat < 256 := UInt8.toNat_lt byte
    simp only [ofByte, List.mem_cons, List.not_mem_nil, or_false] at hbyte
    rcases hbyte with rfl | rfl | rfl
    · exact .inr (.inl rfl)
    · exact .inr (.inr ⟨_, by omega, rfl⟩)
    · exact .inr (.inr ⟨_, by omega, rfl⟩)
  · next hplain =>
    obtain rfl := List.mem_singleton.mp hwritten
    exact .inl ⟨horiginal, by simpa using hplain⟩

theorem not_of_mem_encode {isEncoded : Char → Bool} (hset : IsRemovable isEncoded)
    {text : List Char} {c : Char} (h : c ∈ encode isEncoded text) : isEncoded c = false := by
  rcases mem_encode h with ⟨-, hplain⟩ | rfl | ⟨n, hn, rfl⟩
  · exact hplain
  · exact hset.mark
  · exact hset.digit n hn

theorem encode_eq_self {isEncoded : Char → Bool} {text : List Char}
    (h : ∀ c ∈ text, isEncoded c = false) : encode isEncoded text = text := by
  induction text with
  | nil => rfl
  | cons c text ih =>
      obtain ⟨hc, htext⟩ := List.forall_mem_cons.mp h
      rw [encode, List.flatMap_cons, hc, if_neg Bool.false_ne_true]
      exact congrArg (c :: ·) (ih htext)

/-- Without a percent sign nothing is decoded. -/
theorem decode_eq_self {bytes : Bytes} (h : 0x25 ∉ bytes) : decode bytes = bytes := by
  induction bytes with
  | nil => rfl
  | cons byte bytes ih =>
      obtain ⟨hbyte, hbytes⟩ := not_or.mp (mt List.mem_cons.mpr h)
      rw [decode.eq_def]
      simp only [Ne.symm hbyte, if_false, ih hbytes]

theorem decode_encode_of_notMem {text : List Char} (h : '%' ∉ text) :
    decode (Text.encode (String.ofList text)) = Text.encode (String.ofList text) := by
  refine decode_eq_self fun hmem => h ?_
  rw [Text.encode_eq_flatMap, String.toList_ofList] at hmem
  obtain ⟨c, hc, hbyte⟩ := List.mem_flatMap.mp hmem
  obtain ⟨-, rfl⟩ := Text.eq_of_mem_utf8EncodeChar (by decide) hbyte
  exact hc

/-- A character of ASCII that is neither a blank nor a control. -/
def IsVisible (c : Char) : Prop := 0x20 < c.toNat ∧ c.toNat < 0x7F

instance (c : Char) : Decidable (IsVisible c) := inferInstanceAs (Decidable (_ ∧ _))

theorem isVisible_of_notInAll {c : Char} (h : inAll c = false) (hblank : c ≠ ' ') :
    IsVisible c := by
  simp only [inAll, Bool.or_eq_false_iff, decide_eq_false_iff_not, Nat.not_lt, Nat.not_le] at h
  have hcode : c.toNat ≠ 0x20 := fun heq => hblank (Char.toNat_inj.mp heq)
  exact ⟨by omega, h.2⟩

theorem isVisible_of_notInFragment {c : Char} (h : inFragment c = false) : IsVisible c := by
  simp only [inFragment, Bool.or_eq_false_iff] at h
  exact isVisible_of_notInAll h.1 (by rintro rfl; simp at h)

theorem isVisible_of_notInPath {c : Char} (h : inPath c = false) : IsVisible c :=
  isVisible_of_notInFragment (Bool.or_eq_false_iff.mp h).1

theorem isVisible_of_notInUserInfo {c : Char} (h : inUserInfo c = false) : IsVisible c :=
  isVisible_of_notInPath (Bool.or_eq_false_iff.mp h).1

theorem isVisible_of_notInQuery {c : Char} (h : inQuery c = false) : IsVisible c := by
  simp only [inQuery, Bool.or_eq_false_iff] at h
  exact isVisible_of_notInAll h.1 (by rintro rfl; simp at h)

end BrowserBridge.Percent
