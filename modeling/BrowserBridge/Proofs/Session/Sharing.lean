import BrowserBridge.Proofs.Session.Holders
import BrowserBridge.Service.Scripted

/-!
Runs around a shared connection.  Whatever is done around it, the connection is closed once
at most: by the executor that gives it up as the last one to hold it.
-/

namespace BrowserBridge

namespace Seat

variable {σ : Type} [Service σ]

/-- Nothing but giving the connection up closes it. -/
theorem close_notMem_asks (seat : Seat σ) {step : Executor.Step} (hstep : step ≠ .release) :
    .close ∉ seat.asks step := by
  cases step with
  | bind id => exact List.not_mem_nil
  | release => exact absurd rfl hstep
  | execute name params =>
      rw [asks, Executor.commandCalls]
      cases seat.executor.refusal? name <;> simp
  | quitIfIdle =>
      rw [asks]
      split
      · exact List.not_mem_nil
      · rcases Service.idleCalls_cases seat.connection.service with hcalls | hcalls <;>
          simp [hcalls]

/-- Who gave the connection up asks for nothing any more. -/
theorem asks_of_released {seat : Seat σ} (step : Executor.Step)
    (h : seat.executor.isReleased = true) : seat.asks step = [] := by
  cases step with
  | bind id => rfl
  | execute name params =>
      rw [asks, Executor.commandCalls]
      rcases seat.executor.refusal?_cases name with ⟨-, hrefusal⟩ |
        ⟨command, -, ⟨-, -, hrefusal⟩ | ⟨-, ⟨-, hrefusal⟩ | ⟨hheld, -⟩⟩⟩
      · rw [hrefusal]
      · rw [hrefusal]
      · rw [hrefusal]
      · rw [h] at hheld
        cases hheld
  | release =>
      have hlink : seat.executor.link = .released := of_decide_eq_true h
      rw [asks, closes, hlink]
      rfl
  | quitIfIdle => rw [asks, if_pos h]

end Seat

theorem Executor.link_next {executor : Executor} {step : Step} (hstep : step ≠ .release) :
    (executor.next step).link = executor.link := by
  cases step with
  | release => exact absurd rfl hstep
  | _ => rfl

namespace Pool

variable {σ : Type} [Service σ]

/-- The pool after a step.  A step of what is not there does nothing. -/
def step (pool : Pool σ) : Step → Pool σ
  | .use index step => ((pool.act index step.act).map Prod.snd).getD pool
  | .drop index => (pool.drop index).getD pool
  | .dropOutside => pool.dropOutside.getD pool

/-- The pool after steps in order. -/
def run (pool : Pool σ) : List Step → Pool σ
  | [] => pool
  | step :: rest => (pool.step step).run rest

/-- The calls that a step asks of the service. -/
def asks (pool : Pool σ) : Step → List Call
  | .use index step =>
    match pool.executor? index with
    | some executor => Seat.asks ⟨executor, pool.connection⟩ step
    | none => []
  | _ => []

variable {pool : Pool σ} {index : Nat} {executor : Executor}

theorem step_use (step : Executor.Step) (h : pool.executor? index = some executor) :
    pool.step (.use index step) =
      pool.put ((⟨executor, pool.connection⟩ : Seat σ).step step).connection index
        (some (executor.next step)) := by
  rw [← Seat.executor_step ⟨executor, pool.connection⟩, Pool.step, act, h, Option.map_some,
    Seat.step]
  dsimp only
  cases step.act (⟨executor, pool.connection⟩ : Seat σ) <;> rfl

theorem step_use_of_none (step : Executor.Step) (h : pool.executor? index = none) :
    pool.step (.use index step) = pool := by
  rw [Pool.step, act, h]
  rfl

theorem asks_use (step : Executor.Step) (h : pool.executor? index = some executor) :
    pool.asks (.use index step) = Seat.asks ⟨executor, pool.connection⟩ step := by
  rw [asks, h]

theorem asks_use_of_none (step : Executor.Step) (h : pool.executor? index = none) :
    pool.asks (.use index step) = [] := by
  rw [asks, h]

theorem step_drop (h : pool.executor? index = some executor) :
    pool.step (.drop index) =
      pool.put ⟨pool.connection.service,
        pool.connection.holders - (if executor.link = .shared then 1 else 0)⟩ index none := by
  rw [Pool.step, drop, h]
  rfl

theorem step_drop_of_none (h : pool.executor? index = none) :
    pool.step (.drop index) = pool := by
  rw [Pool.step, drop, h]
  rfl

theorem step_dropOutside (pool : Pool σ) :
    pool.step .dropOutside =
      if pool.outside = 0 then pool
      else ⟨⟨pool.connection.service, pool.connection.holders - 1⟩, pool.executors,
        pool.outside - 1⟩ := by
  rw [Pool.step, dropOutside]
  split <;> rfl

/-- What becomes of the executors does not depend on the service. -/
theorem executor?_step (pool : Pool σ) (step : Step) (index : Nat) :
    (pool.step step).executor? index = step.slot index (pool.executor? index) := by
  cases step with
  | use place act =>
      rw [Step.slot]
      cases hplace : pool.executor? place with
      | none =>
          rw [step_use_of_none act hplace]
          split
          · rename_i hindex
            rw [← hindex, hplace]
            rfl
          · rfl
      | some executor =>
          rw [step_use act hplace]
          rw [executor?_put hplace]
          split
          · rename_i hindex
            rw [← hindex, hplace]
            rfl
          · rfl
  | drop place =>
      rw [Step.slot]
      cases hplace : pool.executor? place with
      | none =>
          rw [step_drop_of_none hplace]
          split
          · rename_i hindex
            rw [← hindex, hplace]
          · rfl
      | some executor =>
          rw [step_drop hplace]
          exact executor?_put hplace _ none index
  | dropOutside =>
      rw [step_dropOutside]
      split <;> rfl

/-- The service gets the calls that a step asks for. -/
theorem service_step (pool : Pool σ) (step : Step) :
    (pool.step step).connection.service =
      Service.after pool.connection.service (pool.asks step) := by
  cases step with
  | use index act =>
      cases hindex : pool.executor? index with
      | none =>
          rw [step_use_of_none act hindex, asks_use_of_none act hindex]
          rfl
      | some executor =>
          rw [step_use act hindex, asks_use act hindex, Seat.step_eq]
          rfl
  | drop index =>
      cases hindex : pool.executor? index with
      | none =>
          rw [step_drop_of_none hindex]
          rfl
      | some executor =>
          rw [step_drop hindex]
          rfl
  | dropOutside =>
      rw [step_dropOutside]
      split <;> rfl

theorem outside_step_le (pool : Pool σ) (step : Step) :
    (pool.step step).outside ≤ pool.outside := by
  cases step with
  | use index act =>
      cases hindex : pool.executor? index with
      | none => exact Nat.le_of_eq (congrArg outside (step_use_of_none act hindex))
      | some executor =>
          rw [step_use act hindex]
          exact Nat.le_refl _
  | drop index =>
      cases hindex : pool.executor? index with
      | none => exact Nat.le_of_eq (congrArg outside (step_drop_of_none hindex))
      | some executor =>
          rw [step_drop hindex]
          exact Nat.le_refl _
  | dropOutside =>
      rw [step_dropOutside]
      split
      · exact Nat.le_refl _
      · exact Nat.sub_le ..

/-- An executor holds the connection as long as it neither gives it up nor is dropped. -/
theorem holds_step_iff (pool : Pool σ) (step : Step) (index : Nat) :
    (pool.step step).Holds index ↔
      pool.Holds index ∧ step ≠ .use index .release ∧ step ≠ .drop index := by
  rw [Holds, executor?_step]
  exact sharing_slot step index _

theorem holds_run_iff (pool : Pool σ) (steps : List Step) (index : Nat) :
    (pool.run steps).Holds index ↔
      pool.Holds index ∧ .use index .release ∉ steps ∧ .drop index ∉ steps := by
  induction steps generalizing pool with
  | nil => simp [run]
  | cons step rest ih =>
      rw [run, ih, holds_step_iff, List.mem_cons, List.mem_cons]
      constructor
      · rintro ⟨⟨hholds, hrelease, hdrop⟩, hlater⟩
        exact ⟨hholds, fun h => h.elim (Ne.symm hrelease) hlater.1,
          fun h => h.elim (Ne.symm hdrop) hlater.2⟩
      · rintro ⟨hholds, hrelease, hdrop⟩
        rw [not_or] at hrelease hdrop
        exact ⟨⟨hholds, Ne.symm hrelease.1, Ne.symm hdrop.1⟩, hrelease.2, hdrop.2⟩

namespace Shares

theorem holders_step (hshares : pool.Shares) (step : Step) :
    (pool.step step).connection.holders = (pool.step step).held + (pool.step step).outside := by
  have hholders := hshares.holders
  cases step with
  | use index act =>
      cases hindex : pool.executor? index with
      | none => rwa [step_use_of_none act hindex]
      | some executor =>
          have hheld := held_put_some hindex (Seat.step ⟨executor, pool.connection⟩ act).connection
            (executor.next act)
          rw [step_use act hindex]
          change (Seat.step ⟨executor, pool.connection⟩ act).connection.holders = _ + pool.outside
          rw [Seat.holders_step]
          by_cases hact : act = .release
          · -- Beside the connection and among the executors one less is counted, if it shared.
            have hgone : (executor.next act).link ≠ .shared := by
              rw [hact]
              exact nofun
            rw [if_neg hgone] at hheld
            rw [hact, Seat.holdersAfter, ← hact]
            change pool.connection.holders - (if executor.link = .shared then 1 else 0) = _
            omega
          · rw [Executor.link_next hact] at hheld
            rw [Seat.holdersAfter_of_ne _ hact]
            change pool.connection.holders = _
            omega
  | drop index =>
      cases hindex : pool.executor? index with
      | none => rwa [step_drop_of_none hindex]
      | some executor =>
          have hheld := held_put_none hindex ⟨pool.connection.service,
            pool.connection.holders - (if executor.link = .shared then 1 else 0)⟩
          rw [step_drop hindex]
          change pool.connection.holders - (if executor.link = .shared then 1 else 0) =
            _ + pool.outside
          omega
  | dropOutside =>
      rw [step_dropOutside]
      split
      · exact hholders
      · rename_i houtside
        change pool.connection.holders - 1 = pool.held + (pool.outside - 1)
        omega

theorem step (hshares : pool.Shares) (step : Step) : (pool.step step).Shares where
  holders := hshares.holders_step step
  notOwned index after hafter := by
    rw [executor?_step] at hafter
    obtain ⟨before, hbefore, hlink | hlink⟩ := link_of_slot hafter
    · rw [hlink]
      exact hshares.notOwned index before hbefore
    · rw [hlink]
      exact nofun

/-- A step closes the connection once if the last to hold it releases it, else not at all. -/
theorem count_close_asks (hshares : pool.Shares) (step : Step) :
    ((pool.asks step).count .close = 1 ∧
        ∃ index, step = .use index .release ∧ pool.IsLast index) ∨
      ((pool.asks step).count .close = 0 ∧
        ¬ ∃ index, step = .use index .release ∧ pool.IsLast index) := by
  cases step with
  | use index act =>
      cases hindex : pool.executor? index with
      | none =>
          rw [asks_use_of_none act hindex]
          refine .inr ⟨rfl, ?_⟩
          rintro ⟨index, ⟨⟩, hlast⟩
          obtain ⟨executor, hexecutor, -⟩ := holds_iff.mp hlast.holds
          rw [hindex] at hexecutor
          cases hexecutor
      | some executor =>
          rw [asks_use act hindex]
          have hcloses := hshares.closes_iff hindex
          by_cases hact : act = .release
          · rw [hact, Seat.asks]
            cases hclosing : Seat.closes ⟨executor, pool.connection⟩ with
            | true => exact .inl ⟨rfl, index, rfl, hcloses.mp hclosing⟩
            | false =>
                refine .inr ⟨rfl, ?_⟩
                rintro ⟨index, ⟨⟩, hlast⟩
                rw [hcloses.mpr hlast] at hclosing
                cases hclosing
          · refine .inr ⟨List.count_eq_zero.mpr (Seat.close_notMem_asks _ hact), ?_⟩
            rintro ⟨index, ⟨⟩, -⟩
            exact hact rfl
  | _ =>
      refine .inr ⟨rfl, ?_⟩
      rintro ⟨index, ⟨⟩, -⟩

end Shares

theorem run_append (pool : Pool σ) (first second : List Step) :
    pool.run (first ++ second) = (pool.run first).run second := by
  induction first generalizing pool with
  | nil => rfl
  | cons step rest ih => exact ih (pool.step step)

/-- A command that may be run is refused to an executor that gave the connection up, and
nothing changes. -/
theorem act_execute_of_released {command : Command} (params : Json)
    (h : pool.executor? index = some executor) (hreleased : executor.isReleased = true)
    (hsession : executor.session.isSome ∨ command.isSessionFree) :
    pool.act index (Act.execute command.name params) = some (.error .connectionClosed, pool) := by
  have hexecute : Act.execute command.name params (⟨executor, pool.connection⟩ : Seat σ) =
      .error .connectionClosed ⟨executor, pool.connection⟩ :=
    Act.execute_of_released params hsession hreleased
  have hself := put_self h
  rw [put] at hself
  rw [act, h, Option.map_some]
  dsimp only
  rw [hexecute]
  dsimp only
  rw [hself]

/-- Where every executor has given the connection up the service is left alone for good. -/
theorem service_run_of_released
    (h : ∀ index executor, pool.executor? index = some executor → executor.isReleased = true)
    (steps : List Step) : (pool.run steps).connection.service = pool.connection.service := by
  induction steps generalizing pool with
  | nil => rfl
  | cons step rest ih =>
      have hasks : pool.asks step = [] := by
        cases step with
        | use index act =>
            cases hindex : pool.executor? index with
            | none => exact asks_use_of_none act hindex
            | some executor =>
                rw [asks_use act hindex]
                exact Seat.asks_of_released act (h index executor hindex)
        | _ => rfl
      have hservice : (pool.step step).connection.service = pool.connection.service := by
        rw [service_step, hasks]
        rfl
      rw [run, ih, hservice]
      intro index after hafter
      rw [executor?_step] at hafter
      obtain ⟨before, hbefore, hlink | hlink⟩ := link_of_slot hafter
      · rw [Executor.isReleased, hlink]
        exact h index before hbefore
      · exact decide_eq_true hlink

section

variable {pool : Pool (Recorded σ)}

theorem closeCount_step (hshares : pool.Shares) (step : Step) :
    ((pool.step step).closeCount = pool.closeCount + 1 ∧
        ∃ index, step = .use index .release ∧ pool.IsLast index) ∨
      ((pool.step step).closeCount = pool.closeCount ∧
        ¬ ∃ index, step = .use index .release ∧ pool.IsLast index) := by
  have hcount : (pool.step step).closeCount =
      pool.closeCount + (pool.asks step).count .close := by
    rw [closeCount, service_step, Recorded.calls_after, List.count_append]
    rfl
  rw [hcount]
  rcases hshares.count_close_asks step with ⟨hone, hlast⟩ | ⟨hzero, hlast⟩
  · rw [hone]
    exact .inl ⟨rfl, hlast⟩
  · rw [hzero]
    exact .inr ⟨rfl, hlast⟩

namespace Sound

theorem step (hsound : pool.Sound) (step : Step) : (pool.step step).Sound where
  toShares := hsound.toShares.step step
  closed := by
    rcases closeCount_step hsound.toShares step with ⟨hcount, index, rfl, hlast⟩ | ⟨hcount, -⟩
    · rw [hcount, hsound.closeCount_of_isLast hlast]
      refine .inr ⟨rfl, fun other hother => ?_⟩
      obtain ⟨hholds, hreleased, -⟩ := (holds_step_iff pool _ other).mp hother
      rw [hlast.unique other hholds] at hreleased
      exact hreleased rfl
    · rw [hcount]
      refine hsound.closed.imp_right fun hclosed => ⟨hclosed.1, fun other hother => ?_⟩
      exact hclosed.2 other ((holds_step_iff pool _ other).mp hother).1

theorem run (hsound : pool.Sound) (steps : List Step) : (pool.run steps).Sound := by
  induction steps generalizing pool with
  | nil => exact hsound
  | cons step rest ih => exact ih (hsound.step step)

/-- As long as a connection without handles outside is not closed, one of the executors that
are still to release it holds it. -/
theorem closed_or_held_step (hsound : pool.Sound) (houtside : pool.outside = 0) {step : Step}
    {rest : List Step} (hreleases : ∀ index, pool.Holds index → ReleasesFirst index (step :: rest))
    (h : pool.closeCount = 1 ∨ ∃ index, pool.Holds index) :
    (pool.step step).closeCount = 1 ∨ ∃ index, (pool.step step).Holds index := by
  rcases closeCount_step hsound.toShares step with ⟨hcount, index, -, hlast⟩ | ⟨hcount, hnone⟩
  · rw [hcount, hsound.closeCount_of_isLast hlast]
    exact .inl rfl
  · rw [hcount]
    refine h.imp_right fun ⟨index, hholds⟩ => ?_
    by_cases hrelease : step = .use index .release
    · -- The executor that releases is not the last, so another one still holds on.
      obtain ⟨other, hother, hne⟩ := exists_other_of_not_isLast hholds houtside
        fun hlast => hnone ⟨index, hrelease, hlast⟩
      refine ⟨other, (holds_step_iff pool step other).mpr ⟨hother, ?_, ?_⟩⟩
      · rw [hrelease]
        rintro ⟨⟩
        exact hne rfl
      · rw [hrelease]
        exact nofun
    · have hdrop := ((hreleases index hholds).of_cons hrelease).1
      exact ⟨index, (holds_step_iff pool step index).mpr ⟨hholds, hrelease, hdrop⟩⟩

/-- Without handles outside the connection is closed when all executors that hold it have
released it. -/
theorem closed_of_all_release (hsound : pool.Sound) (houtside : pool.outside = 0)
    {steps : List Step} (hreleases : ∀ index, pool.Holds index → ReleasesFirst index steps)
    (h : pool.closeCount = 1 ∨ ∃ index, pool.Holds index) : (pool.run steps).closeCount = 1 := by
  induction steps generalizing pool with
  | nil =>
      refine h.resolve_right fun ⟨index, hholds⟩ => ?_
      exact List.not_mem_nil (hreleases index hholds).mem
  | cons step rest ih =>
      have hlater : ∀ index, (pool.step step).Holds index → ReleasesFirst index rest := by
        intro index hindex
        obtain ⟨hholds, hrelease, -⟩ := (holds_step_iff pool step index).mp hindex
        exact ((hreleases index hholds).of_cons hrelease).2
      exact ih (hsound.step step) (Nat.le_zero.mp (houtside ▸ outside_step_le pool step)) hlater
        (hsound.closed_or_held_step houtside hreleases h)

end Sound

end

theorem closeCount_run_sharedBy_nil (service : σ) (outside : Nat) (steps : List Step) :
    ((sharedBy (⟨service, []⟩ : Recorded σ) [] outside).run steps).closeCount = 0 := by
  rw [closeCount, service_run_of_released]
  · rfl
  · intro index executor hindex
    rw [executor?_sharedBy] at hindex
    cases hindex

/-- Dropping all handles outside first and then releasing by all executors closes the
connection, if there is an executor. -/
theorem closeCount_of_all_release (service : σ) (adapters : List Adapter) (outside : Nat)
    {first later : List Step}
    (houtside : ((sharedBy (⟨service, []⟩ : Recorded σ) adapters outside).run first).outside = 0)
    (hheld : ∀ index, .use index .release ∉ first ∧ .drop index ∉ first)
    (hreleases : ∀ index < adapters.length, ReleasesFirst index later) :
    ((sharedBy (⟨service, []⟩ : Recorded σ) adapters outside).run (first ++ later)).closeCount =
      if adapters = [] then 0 else 1 := by
  by_cases hadapters : adapters = []
  · rw [if_pos hadapters, hadapters]
    exact closeCount_run_sharedBy_nil service outside _
  · have hholds (index : Nat) : ((sharedBy (⟨service, []⟩ : Recorded σ) adapters outside).run
        first).Holds index ↔ index < adapters.length := by
      rw [holds_run_iff, holds_sharedBy]
      exact and_iff_left (hheld index)
    have hsound : (sharedBy (⟨service, []⟩ : Recorded σ) adapters outside).Sound :=
      ⟨shares_sharedBy _ adapters outside, .inl rfl⟩
    rw [if_neg hadapters, run_append]
    exact (hsound.run first).closed_of_all_release houtside
      (fun index hindex => hreleases index ((hholds index).mp hindex))
      (.inr ⟨0, (hholds 0).mpr (List.length_pos_iff.mpr hadapters)⟩)

/-- Executors that share a service, with handles outside, and any steps around them.  The
connection is closed once at most, and a step closes it exactly if it is the release by an
executor that is the last to hold it.  After that every executor has given the connection up,
a command that may be run is refused for it, and nothing reaches the service any more.  If
the handles outside are dropped before an executor gives the connection up, and then every
executor releases it, in whatever order, it is closed, provided there is an executor. -/
theorem closed_once_by_last_holder (service : σ) (adapters : List Adapter) (outside : Nat)
    (steps : List Step) :
    let start := sharedBy (⟨service, []⟩ : Recorded σ) adapters outside
    let last := start.run steps
    last.closeCount ≤ 1 ∧
    (∀ step,
      ((last.step step).closeCount = last.closeCount + 1 ∧
          ∃ index, step = .use index .release ∧ last.IsLast index) ∨
        ((last.step step).closeCount = last.closeCount ∧
          ¬ ∃ index, step = .use index .release ∧ last.IsLast index)) ∧
    (last.closeCount = 1 →
      (∀ index executor, last.executor? index = some executor →
        executor.isReleased = true ∧
          ∀ (command : Command) params, executor.session.isSome ∨ command.isSessionFree →
            last.act index (Act.execute command.name params) =
              some (.error .connectionClosed, last)) ∧
      ∀ further, (last.run further).connection.service = last.connection.service) ∧
    ∀ first later, steps = first ++ later → (start.run first).outside = 0 →
      (∀ index, .use index .release ∉ first ∧ .drop index ∉ first) →
      (∀ index < adapters.length, ReleasesFirst index later) →
      last.closeCount = if adapters = [] then 0 else 1 := by
  intro start last
  have hstart : start.Sound := ⟨shares_sharedBy _ adapters outside, .inl rfl⟩
  have hsound : last.Sound := hstart.run steps
  refine ⟨?_, closeCount_step hsound.toShares, fun hclosed => ?_, ?_⟩
  · rcases hsound.closed with hnever | ⟨honce, -⟩
    · rw [hnever]
      exact Nat.zero_le 1
    · exact Nat.le_of_eq honce
  · have hreleased := hsound.toShares.released_of_not_holds
      (hsound.closed.resolve_left (by rw [hclosed]; exact Nat.one_ne_zero)).2
    refine ⟨fun index executor hindex => ⟨hreleased index executor hindex, ?_⟩,
      service_run_of_released hreleased⟩
    intro command params hsession
    exact act_execute_of_released params hindex (hreleased index executor hindex) hsession
  · rintro first later rfl houtside hheld hreleases
    exact closeCount_of_all_release service adapters outside houtside hheld hreleases

/-- Two executors and a handle outside: the handle is dropped, one executor releases the
connection twice and is dropped, then the other one releases it, and closing fails. -/
theorem closed_once_by_last_holder_of_two :
    let service : ScriptedService :=
      ⟨[.response .empty, .fault .connectionPoisoned], []⟩
    let start := sharedBy (⟨service, []⟩ : Recorded ScriptedService) [.setOnly, .allKinds] 1
    let first : List Step := [.use 0 (.execute "status" .null), .dropOutside]
    let later : List Step := [.use 1 .release, .use 1 (.execute "status" .null), .use 1 .release,
      .drop 1, .use 0 .release]
    let last := start.run (first ++ later)
    last.closeCount = 1 ∧ last.executor? 0 = some ⟨.released, none, .setOnly⟩ ∧
      last.act 0 (Act.execute "newSession" .null) = some (.error .connectionClosed, last) ∧
      (last.run [.use 0 .quitIfIdle]).connection.service = last.connection.service := by
  intro service start first later last
  have hexecutor : last.executor? 0 = some ⟨.released, none, .setOnly⟩ := by decide +kernel
  have hrun : (sharedBy (⟨service, []⟩ : Recorded ScriptedService) [.setOnly, .allKinds] 1).run
      (first ++ later) = last := rfl
  obtain ⟨-, -, hafter, hclosed⟩ :=
    closed_once_by_last_holder service [.setOnly, .allKinds] 1 (first ++ later)
  rw [hrun] at hafter hclosed
  clear_value last
  have hreleases : ∀ index < 2, ReleasesFirst index later := by
    intro index hindex
    obtain rfl | rfl : index = 0 ∨ index = 1 := by omega
    · exact ⟨[.use 1 .release, .use 1 (.execute "status" .null), .use 1 .release, .drop 1], [],
        rfl, by simp⟩
    · exact ⟨[], _, rfl, List.not_mem_nil⟩
  have honce : last.closeCount = 1 := hclosed first later rfl (by decide +kernel)
    (by simp [first]) hreleases
  obtain ⟨hreleased, hservice⟩ := hafter honce
  exact ⟨honce, hexecutor, (hreleased 0 _ hexecutor).2 .newSession .null (.inr (by decide)),
    hservice [.use 0 .quitIfIdle]⟩

end Pool

end BrowserBridge
