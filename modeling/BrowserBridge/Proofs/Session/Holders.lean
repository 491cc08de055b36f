import BrowserBridge.Proofs.Session.Step
import BrowserBridge.Session.Pool

/-!
The holders of a shared connection: the executors around it that have not given it up and
the handles outside.  The number beside the connection counts them, so an executor can tell
by it whether it is the last one.
-/

namespace BrowserBridge

namespace Pool

/-- What is done around a connection: an executor does something, an executor is dropped, or
a handle outside is. -/
inductive Step where
  | use (index : Nat) (step : Executor.Step)
  | drop (index : Nat)
  | dropOutside

/-- What a step makes of the executor at a place. -/
def Step.slot (index : Nat) (executor? : Option Executor) : Step → Option Executor
  | use place step =>
    if place = index then executor?.map fun executor => executor.next step else executor?
  | drop place => if place = index then none else executor?
  | dropOutside => executor?

/-- Among steps the executor at a place gives the connection up before it is dropped. -/
def ReleasesFirst (index : Nat) (steps : List Step) : Prop :=
  ∃ before after, steps = before ++ .use index .release :: after ∧ .drop index ∉ before

theorem ReleasesFirst.of_cons {index : Nat} {step : Step} {rest : List Step}
    (h : ReleasesFirst index (step :: rest)) (hstep : step ≠ .use index .release) :
    step ≠ .drop index ∧ ReleasesFirst index rest := by
  obtain ⟨before, after, hsteps, hdrop⟩ := h
  cases before with
  | nil =>
      cases hsteps
      exact absurd rfl hstep
  | cons first before =>
      cases hsteps
      rw [List.mem_cons, not_or] at hdrop
      exact ⟨Ne.symm hdrop.1, before, after, rfl, hdrop.2⟩

theorem ReleasesFirst.mem {index : Nat} {steps : List Step} (h : ReleasesFirst index steps) :
    .use index .release ∈ steps := by
  obtain ⟨before, after, rfl, -⟩ := h
  exact List.mem_append_right before List.mem_cons_self

variable {σ : Type}

/-- Executors that share a service, one for each adapter, with handles outside. -/
def sharedBy (service : σ) (adapters : List Adapter) (outside : Nat) : Pool σ :=
  ⟨⟨service, adapters.length + outside⟩,
    adapters.map fun adapter => some (.fresh .shared adapter), outside⟩

theorem shared_eq_sharedBy (service : σ) (adapter : Adapter) (executors outside : Nat) :
    shared service adapter executors outside =
      sharedBy service (List.replicate executors adapter) outside := by
  rw [shared, sharedBy, List.length_replicate, List.map_replicate]

theorem executor?_sharedBy (service : σ) (adapters : List Adapter) (outside index : Nat) :
    (sharedBy service adapters outside).executor? index =
      adapters[index]?.map (Executor.fresh .shared) := by
  rw [executor?, sharedBy, List.getElem?_map]
  cases adapters[index]? <;> rfl

/-- Whether what is at a place holds the shared connection. -/
def sharing : Option Executor → Bool
  | some executor => executor.link = .shared
  | none => false

@[simp] theorem sharing_some (executor : Executor) :
    sharing (some executor) = true ↔ executor.link = .shared := decide_eq_true_iff

@[simp] theorem sharing_none : sharing none = false := rfl

/-- The executor at a place holds the shared connection. -/
def Holds (pool : Pool σ) (index : Nat) : Prop := sharing (pool.executor? index) = true

theorem holds_iff {pool : Pool σ} {index : Nat} : pool.Holds index ↔
    ∃ executor, pool.executor? index = some executor ∧ executor.link = .shared := by
  rw [Holds]
  cases pool.executor? index <;> simp

/-- The executor at a place holds the shared connection and no one else does. -/
structure IsLast (pool : Pool σ) (index : Nat) : Prop where
  holds : pool.Holds index
  outside : pool.outside = 0
  unique : ∀ other, pool.Holds other → other = index

/-- How many executors hold the shared connection. -/
def held (pool : Pool σ) : Nat := pool.executors.countP sharing

/-- The pool with another connection and something else at a place. -/
def put (pool : Pool σ) (connection : Connection σ) (index : Nat) (slot : Option Executor) :
    Pool σ :=
  ⟨connection, pool.executors.set index slot, pool.outside⟩

variable {pool : Pool σ} {index : Nat} {executor : Executor}

theorem getElem?_of_executor? (h : pool.executor? index = some executor) :
    pool.executors[index]? = some (some executor) := Option.join_eq_some_iff.mp h

theorem executor?_put (h : pool.executor? index = some executor) (connection : Connection σ)
    (slot : Option Executor) (other : Nat) :
    (pool.put connection index slot).executor? other =
      if index = other then slot else pool.executor? other := by
  obtain ⟨hlength, -⟩ := List.getElem?_eq_some_iff.mp (getElem?_of_executor? h)
  rw [executor?, put, List.getElem?_set, if_pos hlength]
  split <;> rfl

theorem put_self (h : pool.executor? index = some executor) :
    pool.put pool.connection index (some executor) = pool := by
  obtain ⟨hlength, hget⟩ := List.getElem?_eq_some_iff.mp (getElem?_of_executor? h)
  rw [put, ← hget, List.set_getElem_self]

/-- Putting something else at a place counts it instead of what was there. -/
theorem held_put (h : pool.executor? index = some executor) (connection : Connection σ)
    (slot : Option Executor) :
    (pool.put connection index slot).held + (if sharing (some executor) then 1 else 0) =
      pool.held + (if sharing slot then 1 else 0) := by
  obtain ⟨hlength, hget⟩ := List.getElem?_eq_some_iff.mp (getElem?_of_executor? h)
  have hcounted := List.boole_getElem_le_countP (p := sharing) hlength
  rw [hget] at hcounted
  rw [held, held, put, List.countP_set hlength, hget]
  omega

theorem held_put_some (h : pool.executor? index = some executor) (connection : Connection σ)
    (after : Executor) :
    (pool.put connection index (some after)).held + (if executor.link = .shared then 1 else 0) =
      pool.held + (if after.link = .shared then 1 else 0) := by
  simpa only [sharing_some] using held_put h connection (some after)

theorem held_put_none (h : pool.executor? index = some executor) (connection : Connection σ) :
    (pool.put connection index none).held + (if executor.link = .shared then 1 else 0) =
      pool.held := by
  simpa using held_put h connection none

/-- No executor is counted if none holds the connection. -/
theorem held_eq_zero_iff (pool : Pool σ) : pool.held = 0 ↔ ∀ index, ¬ pool.Holds index := by
  rw [held, List.countP_eq_zero]
  constructor
  · intro hnone index hholds
    obtain ⟨executor, hindex, hlink⟩ := holds_iff.mp hholds
    exact hnone _ (List.mem_of_getElem? (getElem?_of_executor? hindex))
      ((sharing_some executor).mpr hlink)
  · rintro hnone slot hslot hsharing
    obtain ⟨index, hindex⟩ := List.mem_iff_getElem?.mp hslot
    refine hnone index ?_
    rw [Holds, executor?, hindex]
    exact hsharing

/-- One executor is counted if it holds the connection and no other does. -/
theorem held_eq_one_iff (h : pool.Holds index) :
    pool.held = 1 ↔ ∀ other, pool.Holds other → other = index := by
  obtain ⟨executor, hexecutor, hlink⟩ := holds_iff.mp h
  have hput := held_put_none hexecutor pool.connection
  rw [if_pos hlink] at hput
  -- The others are the executors that hold on where this one is taken away.
  have hzero : pool.held = 1 ↔ (pool.put pool.connection index none).held = 0 := by omega
  have hholds (other : Nat) :
      (pool.put pool.connection index none).Holds other ↔ index ≠ other ∧ pool.Holds other := by
    rw [Holds, executor?_put hexecutor, Holds]
    split
    · rename_i hother
      exact ⟨fun hnone => absurd hnone Bool.false_ne_true, fun hsome => absurd hother hsome.1⟩
    · rename_i hother
      exact ⟨fun hshared => ⟨hother, hshared⟩, And.right⟩
  rw [hzero, held_eq_zero_iff]
  constructor
  · intro hnone other hother
    refine Decidable.byContradiction fun hne => hnone other ?_
    exact (hholds other).mpr ⟨Ne.symm hne, hother⟩
  · intro hunique other hother
    obtain ⟨hne, hother⟩ := (hholds other).mp hother
    exact hne (hunique other hother).symm

/-- With no handle outside, an executor that holds the connection and is not the last to do so
leaves another one. -/
theorem exists_other_of_not_isLast (hholds : pool.Holds index) (houtside : pool.outside = 0)
    (hlast : ¬ pool.IsLast index) : ∃ other, pool.Holds other ∧ other ≠ index := by
  refine Classical.byContradiction fun halone => hlast ⟨hholds, houtside, fun other hother => ?_⟩
  exact Decidable.byContradiction fun hne => halone ⟨other, hother, hne⟩

/-- An executor that is still there after a step has its link or has given it up. -/
theorem link_of_slot {step : Step} {slot : Option Executor} {after : Executor}
    (h : step.slot index slot = some after) :
    ∃ before, slot = some before ∧ (after.link = before.link ∨ after.link = .released) := by
  cases step with
  | use place act =>
      rw [Step.slot] at h
      split at h
      · obtain ⟨before, hbefore, rfl⟩ := Option.map_eq_some_iff.mp h
        refine ⟨before, hbefore, ?_⟩
        cases act with
        | release => exact .inr rfl
        | _ => exact .inl rfl
      · exact ⟨after, h, .inl rfl⟩
  | drop place =>
      rw [Step.slot] at h
      split at h
      · cases h
      · exact ⟨after, h, .inl rfl⟩
  | dropOutside => exact ⟨after, h, .inl rfl⟩

/-- What is at a place holds the connection as long as a step neither releases nor drops it. -/
theorem sharing_slot (step : Step) (index : Nat) (slot : Option Executor) :
    sharing (step.slot index slot) = true ↔
      sharing slot = true ∧ step ≠ .use index .release ∧ step ≠ .drop index := by
  cases step with
  | use place act =>
      by_cases hindex : place = index
      · cases slot <;> cases act <;> simp [Step.slot, sharing, Executor.next, hindex]
      · simp [Step.slot, hindex]
  | drop place => by_cases hindex : place = index <;> simp [Step.slot, sharing, hindex]
  | dropOutside => simp [Step.slot]

/-- The number beside the connection counts those who hold it, and no one owns it. -/
structure Shares (pool : Pool σ) : Prop where
  notOwned : ∀ index executor, pool.executor? index = some executor → executor.link ≠ .owned
  holders : pool.connection.holders = pool.held + pool.outside

/-- Where no one holds the connection every executor has given it up. -/
theorem Shares.released_of_not_holds (hshares : pool.Shares) (h : ∀ index, ¬ pool.Holds index) :
    ∀ index executor, pool.executor? index = some executor → executor.isReleased = true := by
  intro index executor hindex
  have howned := hshares.notOwned index executor hindex
  have hshared := h index
  rw [Holds, hindex, sharing_some] at hshared
  refine decide_eq_true ?_
  cases hlink : executor.link with
  | owned => exact absurd hlink howned
  | shared => exact absurd hlink hshared
  | released => rfl

/-- The executor at a place closes the connection by releasing it if it is the last to hold
it. -/
theorem Shares.closes_iff (hshares : pool.Shares) (h : pool.executor? index = some executor) :
    Seat.closes ⟨executor, pool.connection⟩ = true ↔ pool.IsLast index := by
  have hholds_iff : pool.Holds index ↔ executor.link = .shared := by
    rw [Holds, h, sharing_some]
  rw [Seat.closes]
  cases hlink : executor.link with
  | owned => exact absurd hlink (hshares.notOwned index executor h)
  | released =>
      refine ⟨nofun, fun hlast => ?_⟩
      have hshared := hholds_iff.mp hlast.holds
      rw [hlink] at hshared
      cases hshared
  | shared =>
      have hholds : pool.Holds index := hholds_iff.mpr hlink
      have hone := held_eq_one_iff hholds
      have hsome : pool.held ≠ 0 := fun hzero => (held_eq_zero_iff pool).mp hzero index hholds
      have hholders := hshares.holders
      rw [decide_eq_true_iff]
      constructor
      · intro hlast
        have hcounted : pool.held = 1 ∧ pool.outside = 0 := by
          change pool.connection.holders ≤ 1 at hlast
          omega
        exact ⟨hholds, hcounted.2, hone.mp hcounted.1⟩
      · intro hlast
        have hcounted := hone.mpr hlast.unique
        have houtside := hlast.outside
        change pool.connection.holders ≤ 1
        omega

theorem holds_sharedBy (service : σ) (adapters : List Adapter) (outside index : Nat) :
    (sharedBy service adapters outside).Holds index ↔ index < adapters.length := by
  rw [Holds, executor?_sharedBy]
  cases hindex : adapters[index]? with
  | none => simpa using hindex
  | some adapter => simpa [Executor.fresh] using (List.getElem?_eq_some_iff.mp hindex).1

theorem shares_sharedBy (service : σ) (adapters : List Adapter) (outside : Nat) :
    (sharedBy service adapters outside).Shares where
  notOwned index executor hexecutor := by
    rw [executor?_sharedBy] at hexecutor
    obtain ⟨adapter, -, rfl⟩ := Option.map_eq_some_iff.mp hexecutor
    exact nofun
  holders := by
    have hall : (sharedBy service adapters outside).held = adapters.length := by
      rw [held, sharedBy, List.countP_map]
      exact List.countP_eq_length.mpr fun adapter _ => rfl
    rw [hall]
    rfl

/-- How often the connection was closed. -/
def closeCount (pool : Pool (Recorded σ)) : Nat := pool.connection.service.calls.count .close

/-- What is true of a shared connection at any time: it was closed once at most, and after
that no one holds it. -/
structure Sound (pool : Pool (Recorded σ)) : Prop extends Shares pool where
  closed : pool.closeCount = 0 ∨ pool.closeCount = 1 ∧ ∀ index, ¬ pool.Holds index

theorem Sound.closeCount_of_isLast {pool : Pool (Recorded σ)} (hsound : pool.Sound)
    (hlast : pool.IsLast index) : pool.closeCount = 0 :=
  hsound.closed.resolve_right fun hclosed => hclosed.2 index hlast.holds

end Pool

end BrowserBridge
