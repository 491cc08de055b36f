import BrowserBridge.Text.Utf8

/-!
Big-endian numbers.  `bytesOf width n` is the last `width` digits of `n` in
base 256, most significant first, and `valueOf` reads such digits back.
-/

namespace BrowserBridge.Wire

/-- The number that bytes spell, most significant byte first. -/
def valueOf (bytes : Bytes) : Nat :=
  bytes.foldl (fun n b => n * 256 + b.toNat) 0

/-- The low `width` bytes of a number, most significant byte first. -/
def bytesOf : (width : Nat) → Nat → Bytes
  | 0, _ => []
  | width + 1, n => bytesOf width (n / 256) ++ [UInt8.ofNat n]

@[simp] theorem length_bytesOf (width n : Nat) : (bytesOf width n).length = width := by
  induction width generalizing n with
  | zero => rfl
  | succ width ih => simp [bytesOf, ih]

theorem valueOf_append_singleton (bytes : Bytes) (b : UInt8) :
    valueOf (bytes ++ [b]) = valueOf bytes * 256 + b.toNat := by
  simp [valueOf]

theorem valueOf_bytesOf (width n : Nat) : valueOf (bytesOf width n) = n % Nat.pow 256 width := by
  induction width generalizing n with
  | zero => exact (Nat.mod_one n).symm
  | succ width ih =>
    have hpow : Nat.pow 256 (width + 1) = 256 * Nat.pow 256 width := Nat.mul_comm _ _
    rw [bytesOf, valueOf_append_singleton, ih, UInt8.toNat_ofNat', hpow, Nat.mod_mul]
    omega

/-- The digits of the number that bytes spell are the bytes. -/
theorem bytesOf_valueOf (bytes : Bytes) : bytesOf bytes.length (valueOf bytes) = bytes := by
  rw [← List.reverse_reverse bytes]
  induction bytes.reverse with
  | nil => rfl
  | cons b front ih =>
      rw [List.reverse_cons, List.length_append, List.length_singleton, bytesOf,
        valueOf_append_singleton]
      have hb : b.toNat < 256 := b.toNat_lt
      have hfront : (valueOf front.reverse * 256 + b.toNat) / 256 = valueOf front.reverse := by
        omega
      have hlast : UInt8.ofNat (valueOf front.reverse * 256 + b.toNat) = b := by
        apply UInt8.toNat.inj
        rw [UInt8.toNat_ofNat']
        omega
      rw [hfront, hlast, ih]

theorem valueOf_lt (bytes : Bytes) : valueOf bytes < Nat.pow 256 bytes.length := by
  have hpos : 0 < Nat.pow 256 bytes.length := Nat.pow_pos (by decide)
  have hvalue := valueOf_bytesOf bytes.length (valueOf bytes)
  rw [bytesOf_valueOf] at hvalue
  rw [hvalue]
  exact Nat.mod_lt _ hpos

end BrowserBridge.Wire
