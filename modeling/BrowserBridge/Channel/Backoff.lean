import BrowserBridge.Duration
import BrowserBridge.Fault

/-!
Trying again with growing delays.  The delay doubles with every attempt up to a
greatest one.  A fault of the settings is not tried again.
-/

namespace BrowserBridge

/-- When to try again. -/
structure Backoff where
  /-- Most attempts; zero counts as one. -/
  attempts : UInt32
  initial : Duration
  greatest : Duration
  deriving DecidableEq

namespace Backoff

/-- Eight attempts, a tenth of a second at first and two seconds at most. -/
def default : Backoff := ⟨8, .ofMillis 100, .ofMillis 2000⟩

/-- One attempt. -/
def never : Backoff := ⟨1, .zero, .zero⟩

/-- How often the initial delay is taken after an attempt: one is doubled for every
attempt before it, and the greatest number of 32 bits is taken where that leaves them. -/
def factor (attempt : UInt32) : UInt32 :=
  let earlier := if attempt = 0 then 0 else attempt - 1
  if earlier < 32 then 1 <<< earlier else 0xFFFFFFFF

/-- The delay after an attempt, counted from one. -/
def delayAfter (backoff : Backoff) (attempt : UInt32) : Duration :=
  (backoff.initial.times? (factor attempt)).elim backoff.greatest (·.min backoff.greatest)

/-- What is done while trying. -/
inductive Step where
  | attempt
  /-- Nothing is tried for a time. -/
  | wait (delay : Duration)
  deriving DecidableEq

/-- The delay of a wait. -/
def Step.delay? : Step → Option Duration
  | attempt => none
  | wait delay => some delay

/-- What trying came to. -/
structure Trial (α : Type) where
  outcome : Except Fault α
  /-- What was done, in order. -/
  steps : List Step

namespace Trial

variable {α : Type}

def attempts (trial : Trial α) : Nat := trial.steps.count .attempt

def delays (trial : Trial α) : List Duration := trial.steps.filterMap Step.delay?

end Trial

/-- Whether a fault would come again. -/
def isFinal : Fault → Bool
  | .config _ => true
  | _ => false

/-- Counting on below another number of 32 bits never wraps. -/
theorem toNat_succ_of_lt {attempt attempts : UInt32} (h : attempt < attempts) :
    (attempt + 1).toNat = attempt.toNat + 1 := by
  have hless : attempt.toNat < attempts.toNat := UInt32.lt_iff_toNat_lt.mp h
  have hfits := attempts.toNat_lt
  rw [UInt32.toNat_add, UInt32.toNat_one]
  omega

/-- Tries from attempt number `attempt` on, up to number `attempts`; `coming n` is what is
given after `n` further attempts. -/
def tryFrom {α : Type} (backoff : Backoff) (attempts attempt : UInt32)
    (coming : Nat → Except Fault α) : Trial α :=
  match coming 0 with
  | .ok a => ⟨.ok a, [.attempt]⟩
  | .error fault =>
    if attempt < attempts ∧ isFinal fault = false then
      let trial := tryFrom backoff attempts (attempt + 1) fun n => coming (n + 1)
      { trial with steps := .attempt :: .wait (backoff.delayAfter attempt) :: trial.steps }
    else ⟨.error fault, [.attempt]⟩
termination_by attempts.toNat - attempt.toNat
decreasing_by
  rename_i hgoesOn
  have hless : attempt.toNat < attempts.toNat := UInt32.lt_iff_toNat_lt.mp hgoesOn.1
  rw [toNat_succ_of_lt hgoesOn.1]
  omega

/-- Tries until it succeeds, the settings are at fault or no attempt is left;
`act n` is what the attempt number `n` gives. -/
def run {α : Type} (backoff : Backoff) (act : Nat → Except Fault α) : Trial α :=
  tryFrom backoff (max backoff.attempts 1) 1 fun n => act (n + 1)

end Backoff

end BrowserBridge
