import BrowserBridge.Json.Shape
import BrowserBridge.Proofs.Json.Text

/-!
Typed values that are written as JSON are read as what they were: integers of a fixed width, lists
of texts and texts that may be missing.  Their JSON has no objects and no numbers but integers of
64 bits, so its text is read as it is.
-/

namespace BrowserBridge.Json

theorem asUInt16_toNat (n : UInt16) : asUInt16 (integer n.toNat) = .ok n := by
  have hless := n.toNat_lt
  have hfits : (0 : Int) ≤ n.toNat ∧ (n.toNat : Int) ≤ 0xFFFF := by omega
  simp [asUInt16, asIntegerIn, hfits]

theorem asUInt64_toNat (n : UInt64) : asUInt64 (integer n.toNat) = .ok n := by
  have hless := n.toNat_lt
  have hfits : (0 : Int) ≤ n.toNat ∧ (n.toNat : Int) ≤ 0xFFFFFFFFFFFFFFFF := by omega
  simp [asUInt64, asIntegerIn, hfits]

theorem asStrings_map (texts : List String) : asStrings (array (texts.map string)) = .ok texts := by
  rw [asStrings]
  induction texts with
  | nil => rfl
  | cons text texts ih =>
      rw [List.map_cons, List.mapM_cons, ih]
      rfl

theorem asInt32_toInt (n : Int32) : asInt32 (integer n.toInt) = .ok n := by
  have hleast := n.le_toInt
  have hmost := n.toInt_lt
  have hfits : (-0x80000000 : Int) ≤ n.toInt ∧ n.toInt ≤ 0x7FFFFFFF := by omega
  simp [asInt32, asIntegerIn, hfits]

/-- What may be missing is read off null or a text. -/
theorem asOption_elim (read : Json → Shaped String) (hread : ∀ text, read (string text) = .ok text)
    (value : Option String) : asOption read (value.elim null string) = .ok value := by
  cases value with
  | none => rfl
  | some text =>
      rw [Option.elim_some, asOption, hread]
      · rfl
      · exact Json.noConfusion

theorem wholeElements_map (texts : List String) : WholeElements (texts.map string) := by
  induction texts with
  | nil => exact True.intro
  | cons text texts ih => exact ⟨True.intro, ih⟩

theorem settledElements_map (texts : List String) :
    settledElements (texts.map string) = texts.map string := by
  induction texts with
  | nil => rfl
  | cons text texts ih =>
      rw [List.map_cons, settledElements, ih]
      simp [settled]

theorem whole_elim (value : Option String) : Whole (value.elim null string) := by
  cases value <;> exact True.intro

theorem settled_elim (value : Option String) :
    settled (value.elim null string) = value.elim null string := by
  cases value <;> simp [settled]

end BrowserBridge.Json
