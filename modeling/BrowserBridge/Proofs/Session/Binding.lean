import BrowserBridge.Proofs.Session.Step
import BrowserBridge.Service.Scripted

/-!
Sessions over runs of an executor.  A session once bound stays, and the commands that reach
the service are the ones that may be run, each of them once and with the session it belongs
to.
-/

namespace BrowserBridge

/-- Whether a call runs a command. -/
def Call.isExecute : Call → Bool
  | execute .. => true
  | _ => false

namespace Executor

/-- The commands that a step sends. -/
def stepCommands (executor : Executor) : Step → List Call
  | .execute name params => executor.commandCalls name params
  | _ => []

/-- The commands that steps send, in order. -/
def commands (executor : Executor) : List Step → List Call
  | [] => []
  | step :: rest => executor.stepCommands step ++ (executor.next step).commands rest

theorem session_next {executor : Executor} {id : SessionId} (step : Step)
    (h : executor.session = some id) : (executor.next step).session = some id := by
  cases step with
  | bind attempted => rw [next, h, Option.some_or]
  | _ => exact h

theorem filter_commandCalls (executor : Executor) (name : String) (params : Json) :
    (executor.commandCalls name params).filter Call.isExecute =
      executor.commandCalls name params := by
  unfold commandCalls
  cases executor.refusal? name <;> rfl

end Executor

theorem Service.filter_idleCalls {σ : Type} [Service σ] (service : σ) :
    (idleCalls service).filter Call.isExecute = [] := by
  rcases idleCalls_cases service with hcalls | hcalls <;> rw [hcalls] <;> rfl

namespace Seat

variable {σ : Type} [Service σ]

/-- The seat after steps in order. -/
def run (seat : Seat σ) : List Executor.Step → Seat σ
  | [] => seat
  | step :: rest => (seat.step step).run rest

/-- Of all steps only the execution of a command sends one. -/
theorem filter_asks (seat : Seat σ) (step : Executor.Step) :
    (seat.asks step).filter Call.isExecute = seat.executor.stepCommands step := by
  cases step with
  | bind id => rfl
  | execute name params => exact seat.executor.filter_commandCalls name params
  | release =>
      rw [asks]
      cases seat.closes <;> rfl
  | quitIfIdle =>
      rw [asks]
      cases seat.executor.isReleased with
      | true => rfl
      | false => exact Service.filter_idleCalls seat.connection.service

theorem session_run {seat : Seat σ} {id : SessionId} (steps : List Executor.Step)
    (h : seat.executor.session = some id) : (seat.run steps).executor.session = some id := by
  induction steps generalizing seat with
  | nil => exact h
  | cons step rest ih =>
      have hstep : (seat.step step).executor.session = some id := by
        rw [executor_step]
        exact Executor.session_next step h
      exact ih hstep

/-- The commands that reach the service in a run are told by the executor alone. -/
theorem filter_calls_run (seat : Seat (Recorded σ)) (steps : List Executor.Step) :
    (seat.run steps).calls.filter Call.isExecute =
      seat.calls.filter Call.isExecute ++ seat.executor.commands steps := by
  induction steps generalizing seat with
  | nil => exact (List.append_nil _).symm
  | cons step rest ih =>
      have hstep : (seat.step step).calls.filter Call.isExecute =
          seat.calls.filter Call.isExecute ++ seat.executor.stepCommands step := by
        rw [calls_step, List.filter_append, filter_asks]
      rw [run, ih, hstep, executor_step, List.append_assoc]
      rfl

/-- Runs of an executor over any service.  A session once bound stays bound whatever
follows, and to bind another one fails and changes nothing.  A command that may be run is one
call of the service, with the bound session if there is one, the command's name and the text
of its parameters; any other command fails for the first reason there is, without a call and
without a change.  These calls are all the commands that the service gets, in their order. -/
theorem bound_session_carried (seat : Seat (Recorded σ)) (steps : List Executor.Step) :
    let last := seat.run steps
    (∀ id, seat.executor.session = some id → last.executor.session = some id) ∧
    (∀ id other, last.executor.session = some id → other ≠ id →
      Act.bind other last = .error (.sessionAlreadyBound id other) last) ∧
    (∀ name params fault, last.executor.refusal? name = some fault →
      Act.execute name params last = .error fault last) ∧
    (∀ name params, last.executor.refusal? name = none →
      let call : Call := .execute (last.executor.session.map SessionId.text) name params.render
      Act.execute name params last = (last.asked [call]).ending
          (last.executor.adapter.adapt <$> Service.outcome last.connection.service call) ∧
        (last.asked [call]).calls = last.calls ++ [call]) ∧
    last.calls.filter Call.isExecute =
      seat.calls.filter Call.isExecute ++ seat.executor.commands steps := by
  intro last
  refine ⟨fun id hbound => session_run steps hbound, fun id other hbound hother => ?_,
    fun name params fault hrefusal => ?_, fun name params hrefusal => ⟨?_, calls_asked last _⟩,
    filter_calls_run seat steps⟩
  · rw [Act.bind_of_bound other hbound, if_neg (Ne.symm hother)]
    rfl
  · rw [Act.execute_cases, hrefusal]
  · rw [Act.execute_cases, hrefusal]

/-- Commands before, in and after a session, with an attempt to change it. -/
theorem bound_session_carried_until_release :
    let seat : Seat (Recorded ScriptedService) :=
      ⟨.fresh .owned .setOnly, ⟨⟨⟨[.fault .connectionClosed], []⟩, []⟩, 1⟩⟩
    let id : SessionId := ⟨"s", by decide⟩
    let other : SessionId := ⟨"t", by decide⟩
    let bound := seat.run [.execute "getTitle" .null, .execute "newSession" .null, .bind id]
    let rest : List Executor.Step :=
      [.execute "getTitle" .null, .bind other, .quitIfIdle, .release, .execute "status" .null]
    bound.executor.session = some id ∧ (bound.run rest).executor.session = some id ∧
      (endOf (Act.execute "getTitle" .null bound)).calls =
        bound.calls ++ [.execute (some "s") "getTitle" "null"] ∧
      Act.bind other bound = .error (.sessionAlreadyBound id other) bound ∧
      Act.execute "status" .null (bound.run rest) = .error .connectionClosed (bound.run rest) ∧
      (bound.run rest).calls = [.execute none "newSession" "null",
        .execute (some "s") "getTitle" "null", .activeDrivers, .shutService, .close] := by
  intro seat id other bound rest
  have hbound : bound.executor.session = some id := by decide +kernel
  have htitle : bound.executor.refusal? "getTitle" = none := by
    have hlisted : "getTitle" ∈ commandNames := by decide +kernel
    have hheld : ¬ bound.executor.isReleased = true := by decide +kernel
    rw [Executor.refusal?, if_neg (not_not_intro hlisted), if_neg (by simp [hbound]), if_neg hheld]
  have hstatus : (bound.run rest).executor.refusal? "status" = some .connectionClosed := by
    have hlisted : "status" ∈ commandNames := by decide +kernel
    have hreleased : (bound.run rest).executor.isReleased = true := by decide +kernel
    rw [Executor.refusal?, if_neg (not_not_intro hlisted), if_neg (by simp), if_pos hreleased]
  obtain ⟨-, hother, -, hsent, -⟩ := bound_session_carried bound []
  obtain ⟨hkept, -, hrefused, -⟩ := bound_session_carried bound rest
  rw [run] at hother hsent
  obtain ⟨hexecute, hcalls⟩ := hsent "getTitle" .null htitle
  refine ⟨hbound, hkept id hbound, ?_, hother id other hbound (by decide),
    hrefused "status" .null .connectionClosed hstatus, by decide +kernel⟩
  rw [hexecute, endOf_ending, hcalls, hbound]
  rfl

end Seat

end BrowserBridge
