import BrowserBridge.Tool.Sequence

/-!
Sequences of numbers.  The bound on their length never cuts one short: each runs from its first
number in even steps as far as its last one allows.
-/

namespace BrowserBridge.Tool.Sequence

/-- Whether a number lies beyond the last one of a sequence. -/
def IsPast (step last n : Int) : Prop := (0 < step ∧ last < n) ∨ (step < 0 ∧ n < last)

variable {step last first : Int}

theorem numbers_of_isPast (h : IsPast step last first) (fuel : Nat) :
    numbers step last fuel first = [] := by
  cases fuel with
  | zero => rfl
  | succ fuel => exact if_pos (by simpa [IsPast] using h)

theorem numbers_of_not_isPast (h : ¬ IsPast step last first) (fuel : Nat) :
    numbers step last (fuel + 1) first = first :: numbers step last fuel (first + step) :=
  if_neg (by simpa [IsPast] using h)

/-- A sequence that is not past its last number has as many steps as fit in between. -/
theorem numbers_eq_map (hstep : step ≠ 0) (hfirst : ¬ IsPast step last first) {fuel : Nat}
    (hfuel : (last - first).natAbs < fuel) :
    numbers step last fuel first =
      (List.range ((last - first).natAbs / step.natAbs + 1)).map fun k : Nat =>
        first + k * step := by
  induction fuel generalizing first with
  | zero => exact absurd hfuel (Nat.not_lt_zero _)
  | succ fuel ih =>
      rw [numbers_of_not_isPast hfirst, List.range_succ_eq_map, List.map_cons, List.map_map]
      by_cases hnext : IsPast step last (first + step)
      · have hnone : (last - first).natAbs / step.natAbs = 0 := by
          refine Nat.div_eq_of_lt ?_
          unfold IsPast at hfirst hnext
          omega
        rw [numbers_of_isPast hnext, hnone]
        simp
      · have hdistance : (last - first).natAbs = (last - (first + step)).natAbs + step.natAbs := by
          unfold IsPast at hfirst hnext
          omega
        have hpositive : 0 < step.natAbs := Int.natAbs_pos.mpr hstep
        have hshift (k : Nat) : first + step + k * step = first + (k + 1 : Nat) * step := by
          rw [Int.natCast_add, Int.add_mul, Int.natCast_one, Int.one_mul]
          omega
        rw [ih hnext (by omega), hdistance, Nat.add_div_right _ hpositive]
        simp only [hshift, Function.comp_def, Int.natCast_zero, Int.zero_mul, Int.add_zero]

end BrowserBridge.Tool.Sequence
