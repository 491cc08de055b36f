import BrowserBridge.Channel.Backoff
import Mathlib.Tactic.Ring

/-!
The delays between attempts in exact arithmetic.  Seconds and nanoseconds that are
multiplied apart come to the exact multiple, unless it is longer than every span; a factor
that is shifted within 32 bits is the exact power of two as long as it fits.  So a delay is
the exact multiple of the initial one up to the greatest, and grows with the attempts.
-/

namespace BrowserBridge

namespace Duration

/-- The parts of a multiple come to the multiple. -/
theorem parts_mul (nanos factor : Nat) :
    (nanos / 1000000000 * factor + nanos % 1000000000 * factor / 1000000000) * 1000000000 +
        nanos % 1000000000 * factor % 1000000000 = nanos * factor := by
  have hfraction := Nat.div_add_mod' (nanos % 1000000000 * factor) 1000000000
  have hnanos := Nat.div_add_mod' nanos 1000000000
  calc
    _ = nanos / 1000000000 * factor * 1000000000 +
          (nanos % 1000000000 * factor / 1000000000 * 1000000000 +
            nanos % 1000000000 * factor % 1000000000) := by ring
    _ = (nanos / 1000000000 * 1000000000 + nanos % 1000000000) * factor := by
        rw [hfraction]
        ring
    _ = nanos * factor := by rw [hnanos]

/-- There is a multiple precisely when the exact one is a span, and then it is that. -/
theorem times?_eq (span : Duration) (factor : UInt32) :
    span.times? factor =
      if h : span.nanos * factor.toNat < 0x10000000000000000 * 1000000000
      then some ⟨span.nanos * factor.toNat, h⟩ else none := by
  have hparts := parts_mul span.nanos factor.toNat
  simp only [times?, ofParts?, seconds, subsecond, hparts]

end Duration

namespace Backoff

/-- How often the initial delay is taken after an attempt, in exact arithmetic: one is
doubled for each attempt before it, up to the thirty-second. -/
def growth (attempt : Nat) : Nat :=
  if max attempt 1 ≤ 32 then 2 ^ (max attempt 1 - 1) else 2 ^ 32 - 1

theorem growth_mono {attempt later : Nat} (hle : attempt ≤ later) :
    growth attempt ≤ growth later := by
  have hmax : max attempt 1 ≤ max later 1 := by omega
  unfold growth
  by_cases hlater : max later 1 ≤ 32
  · rw [if_pos hlater, if_pos (Nat.le_trans hmax hlater)]
    exact Nat.pow_le_pow_right (by decide) (Nat.sub_le_sub_right hmax 1)
  · rw [if_neg hlater]
    by_cases hattempt : max attempt 1 ≤ 32
    · rw [if_pos hattempt]
      have hpow : 2 ^ (max attempt 1 - 1) ≤ 2 ^ 31 :=
        Nat.pow_le_pow_right (by decide) (by omega)
      exact Nat.le_trans hpow (by decide)
    · rw [if_neg hattempt]

theorem toNat_earlier (attempt : UInt32) :
    (if attempt = 0 then 0 else attempt - 1).toNat = max attempt.toNat 1 - 1 := by
  by_cases hzero : attempt = 0
  · simp [hzero]
  · have hpos : 1 ≤ attempt.toNat :=
      Nat.pos_of_ne_zero fun h => hzero (UInt32.toNat_inj.mp h)
    have hle : (1 : UInt32) ≤ attempt := UInt32.le_iff_toNat_le.mpr hpos
    rw [if_neg hzero, UInt32.toNat_sub_of_le _ _ hle, Nat.max_eq_left hpos]
    rfl

/-- The shift loses no bit. -/
theorem toNat_factor (attempt : UInt32) : (factor attempt).toNat = growth attempt.toNat := by
  have hearlier := toNat_earlier attempt
  unfold factor growth
  generalize (if attempt = 0 then 0 else attempt - 1) = earlier at hearlier
  rw [← hearlier]
  by_cases hwithin : earlier < 32
  · have hless : earlier.toNat < 32 := UInt32.lt_iff_toNat_lt.mp hwithin
    have hpow : 2 ^ earlier.toNat < 2 ^ 32 := Nat.pow_lt_pow_right (by decide) hless
    rw [if_pos hwithin, if_pos (by omega), UInt32.toNat_shiftLeft, Nat.mod_eq_of_lt hless,
      Nat.shiftLeft_eq]
    simpa using hpow
  · have hbeyond : ¬ earlier.toNat < 32 := fun h => hwithin (UInt32.lt_iff_toNat_lt.mpr h)
    rw [if_neg hwithin, if_neg (by omega)]
    rfl

theorem nanos_min (a b : Duration) : (a.min b).nanos = min a.nanos b.nanos := by
  unfold Duration.min
  split
  · next hle => exact (Nat.min_eq_left hle).symm
  · next hlt => exact (Nat.min_eq_right (Nat.le_of_not_le hlt)).symm

/-- A delay is the exact multiple, cut to the greatest one. -/
theorem nanos_delayAfter (backoff : Backoff) (attempt : UInt32) :
    (backoff.delayAfter attempt).nanos =
      min backoff.greatest.nanos (backoff.initial.nanos * growth attempt.toNat) := by
  have hgreatest := backoff.greatest.fits
  rw [delayAfter, Duration.times?_eq]
  split
  · next hfits => rw [Option.elim_some, nanos_min, Nat.min_comm, ← toNat_factor]
  · next hlong =>
    rw [Option.elim_none, ← toNat_factor]
    exact (Nat.min_eq_left (by omega)).symm

/-- The delay after an attempt in whole nanoseconds: the initial delay times the growth,
cut to the greatest delay.  So it never exceeds that one, and later attempts wait no
shorter. -/
theorem delay_exact (backoff : Backoff) (attempt : UInt32) :
    (backoff.delayAfter attempt).nanos =
        min backoff.greatest.nanos (backoff.initial.nanos * growth attempt.toNat) ∧
      (backoff.delayAfter attempt).nanos ≤ backoff.greatest.nanos ∧
      ∀ later : UInt32, attempt ≤ later →
        (backoff.delayAfter attempt).nanos ≤ (backoff.delayAfter later).nanos := by
  have hexact := backoff.nanos_delayAfter attempt
  refine ⟨hexact, ?_, fun later hle => ?_⟩
  · rw [hexact]
    exact Nat.min_le_left _ _
  · have hgrowth : growth attempt.toNat ≤ growth later.toNat :=
      growth_mono (UInt32.le_iff_toNat_le.mp hle)
    have hproduct := Nat.mul_le_mul_left backoff.initial.nanos hgrowth
    rw [hexact, backoff.nanos_delayAfter later]
    omega

/-- Across the width of the factor: the thirty-third attempt is behind the last doubling, so
it takes the initial delay once less than a doubling would. -/
theorem delay_exact_past_width :
    (32 : UInt32) ≤ 33 ∧
      ((⟨0, .ofMillis 1, .ofMillis 0xFFFFFFFFFFFFFFFF⟩ : Backoff).delayAfter 33).nanos =
        (2 ^ 32 - 1) * 1000000 ∧
      ((⟨0, .ofMillis 1, .ofMillis 0xFFFFFFFFFFFFFFFF⟩ : Backoff).delayAfter 32).nanos ≤
        ((⟨0, .ofMillis 1, .ofMillis 0xFFFFFFFFFFFFFFFF⟩ : Backoff).delayAfter 33).nanos :=
  ⟨by decide, (delay_exact _ 33).1.trans (by decide), (delay_exact _ 32).2.2 33 (by decide)⟩

end Backoff

end BrowserBridge
