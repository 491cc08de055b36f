import BrowserBridge.Channel.Backoff
import Mathlib.Data.Nat.Find
import Mathlib.Order.Bounds.Defs

/-!
What trying does, attempt by attempt.  An attempt that fails with a fault that may pass is
followed by a wait and by the next attempt as long as one is left; every other attempt is the
last.  So the attempts are counted by the first success, the first fault of the settings or the
number that is allowed, whichever comes first, and there is one wait less than attempts.
-/

namespace BrowserBridge.Backoff

variable {α : Type} (backoff : Backoff)

/-- The attempt with a number is the last of those allowed if it succeeds, if the settings are
at fault or if no other is left. -/
def IsLast (allowed number : Nat) (result : Except Fault α) : Prop :=
  (∃ a, result = .ok a) ∨ (∃ cause, result = .error (.config cause)) ∨ number = allowed

/-- What is done for failed attempts from number `first` on: after each of them the delay that
belongs to its number is waited for. -/
def failures (first count : Nat) : List Step :=
  (List.range' first count).flatMap fun number =>
    [.attempt, .wait (backoff.delayAfter (UInt32.ofNat number))]

theorem failures_succ (first count : Nat) :
    backoff.failures first (count + 1) =
      .attempt :: .wait (backoff.delayAfter (UInt32.ofNat first)) ::
        backoff.failures (first + 1) count := by
  simp [failures, List.range'_succ]

theorem count_attempt_failures (first count : Nat) :
    (backoff.failures first count).count .attempt = count := by
  induction count generalizing first with
  | zero => rfl
  | succ count ih =>
      have hwait : ∀ delay, Step.wait delay ≠ .attempt := fun _ => Step.noConfusion
      rw [failures_succ, List.count_cons_self, List.count_cons_of_ne (hwait _), ih]

theorem filterMap_delay?_failures (first count : Nat) :
    (backoff.failures first count).filterMap Step.delay? =
      (List.range' first count).map fun number => backoff.delayAfter (UInt32.ofNat number) := by
  induction count generalizing first with
  | zero => rfl
  | succ count ih =>
      rw [failures_succ, List.range'_succ, List.map_cons, ← ih]
      rfl

section Steps

variable {attempts attempt : UInt32} {coming : Nat → Except Fault α}

theorem isFinal_eq_false_iff {fault : Fault} :
    isFinal fault = false ↔ ¬ ∃ cause, fault = .config cause := by
  cases fault <;> simp [isFinal]

/-- Whether trying goes on behind an attempt. -/
theorem not_isLast_iff (hle : attempt ≤ attempts) {result : Except Fault α} :
    ¬ IsLast attempts.toNat attempt.toNat result ↔
      ∃ fault, result = .error fault ∧ attempt < attempts ∧ isFinal fault = false := by
  have hless : attempt.toNat ≠ attempts.toNat ↔ attempt < attempts := by
    rw [UInt32.lt_iff_toNat_lt]
    have hnat := UInt32.le_iff_toNat_le.mp hle
    omega
  cases result with
  | ok a => simp [IsLast]
  | error fault =>
      simp [IsLast, isFinal_eq_false_iff, ← hless, and_comm]

theorem tryFrom_of_isLast (hle : attempt ≤ attempts)
    (hlast : IsLast attempts.toNat attempt.toNat (coming 0)) :
    backoff.tryFrom attempts attempt coming = ⟨coming 0, [.attempt]⟩ := by
  rw [tryFrom]
  cases hresult : coming 0 with
  | ok a => rfl
  | error fault =>
      have hend : ¬ (attempt < attempts ∧ isFinal fault = false) := fun hgoesOn =>
        (not_isLast_iff hle).mpr ⟨fault, hresult, hgoesOn⟩ hlast
      exact if_neg hend

theorem tryFrom_of_not_isLast (hle : attempt ≤ attempts)
    (hother : ¬ IsLast attempts.toNat attempt.toNat (coming 0)) {later : Trial α}
    (hlater : backoff.tryFrom attempts (attempt + 1) (fun n => coming (n + 1)) = later) :
    backoff.tryFrom attempts attempt coming =
      ⟨later.outcome, .attempt :: .wait (backoff.delayAfter attempt) :: later.steps⟩ := by
  obtain ⟨fault, hresult, hgoesOn⟩ := (not_isLast_iff hle).mp hother
  rw [tryFrom, hresult, ← hlater]
  exact if_pos hgoesOn

end Steps

/-- Trying comes to the first attempt that is the last one.  The induction is on the failed
attempts before it. -/
theorem tryFrom_eq {attempts attempt : UInt32} (hle : attempt ≤ attempts) {more : Nat}
    {coming : Nat → Except Fault α}
    (hbefore : ∀ n < more, ¬ IsLast attempts.toNat (attempt.toNat + n) (coming n))
    (hlast : IsLast attempts.toNat (attempt.toNat + more) (coming more)) :
    backoff.tryFrom attempts attempt coming =
      ⟨coming more, backoff.failures attempt.toNat more ++ [.attempt]⟩ := by
  induction more generalizing attempt coming with
  | zero => exact backoff.tryFrom_of_isLast hle hlast
  | succ more ih =>
      have hother : ¬ IsLast attempts.toNat attempt.toNat (coming 0) :=
        hbefore 0 (Nat.succ_pos more)
      obtain ⟨fault, hresult, hless, hpasses⟩ := (not_isLast_iff hle).mp hother
      have hnext : (attempt + 1).toNat = attempt.toNat + 1 := toNat_succ_of_lt hless
      have hnextLe : attempt + 1 ≤ attempts := by
        rw [UInt32.le_iff_toNat_le, hnext]
        exact UInt32.lt_iff_toNat_lt.mp hless
      have hlater : backoff.tryFrom attempts (attempt + 1) (fun n => coming (n + 1)) =
          ⟨coming (more + 1), backoff.failures (attempt.toNat + 1) more ++ [.attempt]⟩ := by
        rw [← hnext]
        refine ih hnextLe (fun n hn => ?_) ?_
        · rw [hnext, Nat.add_right_comm]
          exact hbefore (n + 1) (Nat.succ_lt_succ hn)
        · rw [hnext, Nat.add_right_comm]
          exact hlast
      rw [backoff.tryFrom_of_not_isLast hle hother hlater, failures_succ, UInt32.ofNat_toNat]
      rfl

/-- How many attempts are allowed. -/
def allowed : Nat := max 1 backoff.attempts.toNat

theorem toNat_max_attempts : (max backoff.attempts 1).toNat = backoff.allowed := by
  show (if backoff.attempts ≤ 1 then 1 else backoff.attempts).toNat = max 1 backoff.attempts.toNat
  split
  · next hle =>
    have hnat : backoff.attempts.toNat ≤ 1 := UInt32.le_iff_toNat_le.mp hle
    exact (Nat.max_eq_left hnat).symm
  · next hmore =>
    have hnat : ¬ backoff.attempts.toNat ≤ 1 := fun h => hmore (UInt32.le_iff_toNat_le.mpr h)
    exact (Nat.max_eq_right (Nat.le_of_not_le hnat)).symm

/-- The numbers that attempts may end with. -/
def lasts (act : Nat → Except Fault α) : Set Nat :=
  {number | 1 ≤ number ∧ IsLast backoff.allowed number (act number)}

theorem allowed_mem_lasts (act : Nat → Except Fault α) : backoff.allowed ∈ backoff.lasts act :=
  ⟨Nat.le_max_left _ _, .inr (.inr rfl)⟩

theorem run_eq {act : Nat → Except Fault α} {last : Nat} (hlast : IsLeast (backoff.lasts act) last) :
    backoff.run act = ⟨act last, backoff.failures 1 (last - 1) ++ [.attempt]⟩ := by
  obtain ⟨⟨hpos, hends⟩, hleast⟩ := hlast
  obtain ⟨more, rfl⟩ := Nat.exists_eq_add_of_le' hpos
  have hone : (1 : UInt32) ≤ max backoff.attempts 1 := by
    rw [UInt32.le_iff_toNat_le, toNat_max_attempts]
    exact Nat.le_max_left _ _
  refine backoff.tryFrom_eq hone (fun n hn hearlier => ?_) ?_
  · have hmem : n + 1 ∈ backoff.lasts act := by
      rw [toNat_max_attempts, UInt32.toNat_one, Nat.add_comm] at hearlier
      exact ⟨Nat.le_add_left 1 n, hearlier⟩
    have hle : more + 1 ≤ n + 1 := hleast hmem
    omega
  · rw [toNat_max_attempts, UInt32.toNat_one, Nat.add_comm]
    exact hends

/-- Trying ends with the least attempt that is the last: the first success, the first fault of
the settings, or the number of attempts, of which there is at least one.  What it came to is what
that attempt gave.  Between two attempts, and nowhere else, the delay of the first of the two is
waited for. -/
theorem run_exact (act : Nat → Except Fault α) :
    ∃ last,
      IsLeast {number | 1 ≤ number ∧
        ((∃ a, act number = .ok a) ∨ (∃ cause, act number = .error (.config cause)) ∨
          number = max 1 backoff.attempts.toNat)} last ∧
      (backoff.run act).outcome = act last ∧
      (backoff.run act).attempts = last ∧
      (backoff.run act).delays =
        (List.range' 1 (last - 1)).map (fun number => backoff.delayAfter (UInt32.ofNat number)) ∧
      (backoff.run act).steps = backoff.failures 1 (last - 1) ++ [.attempt] := by
  classical
  have hsome : ∃ number, number ∈ backoff.lasts act := ⟨_, backoff.allowed_mem_lasts act⟩
  have hlast : IsLeast (backoff.lasts act) (Nat.find hsome) :=
    ⟨Nat.find_spec hsome, fun _ hmem => Nat.find_min' hsome hmem⟩
  have hpos : 1 ≤ Nat.find hsome := hlast.1.1
  refine ⟨Nat.find hsome, hlast, ?_⟩
  rw [backoff.run_eq hlast]
  refine ⟨rfl, ?_, ?_, rfl⟩
  · rw [Trial.attempts, List.count_append, count_attempt_failures]
    exact Nat.sub_add_cancel hpos
  · rw [Trial.delays, List.filterMap_append, filterMap_delay?_failures]
    exact List.append_nil _

end BrowserBridge.Backoff
