import BrowserBridge.Proofs.Session.Execute

/-!
What an executor does at its connection.  Whatever the service is like, a step of an executor
comes to a list of calls that it asks of the service and a change of the seat apart from the
service; both are said here once for every step.  A recorded service writes its calls down,
so that what is asked of it can be read off it.
-/

namespace BrowserBridge

open Wire

namespace Service

variable {σ : Type} [Service σ]

/-- What a call comes to. -/
def outcome (service : σ) (call : Call) : Except Fault call.Answer :=
  match perform call service with
  | .ok answer _ => .ok answer
  | .error fault _ => .error fault

/-- The service after a call, however it ended. -/
def next (service : σ) (call : Call) : σ :=
  match perform call service with
  | .ok _ last => last
  | .error _ last => last

/-- The service after calls in order. -/
def after (service : σ) (calls : List Call) : σ := calls.foldl next service

/-- The calls that end a service if it holds no session. -/
def idleCalls (service : σ) : List Call :=
  match outcome service .activeDrivers with
  | .ok active => if 0 < active then [.activeDrivers] else [.activeDrivers, .shutService]
  | .error _ => [.activeDrivers]

variable {service : σ} {call : Call}

theorem perform_eq (service : σ) (call : Call) :
    perform call service =
      match outcome service call with
      | .ok answer => .ok answer (next service call)
      | .error fault => .error fault (next service call) := by
  unfold outcome next
  cases perform call service <;> rfl

theorem perform_of_outcome_ok {answer : call.Answer} (h : outcome service call = .ok answer) :
    perform call service = .ok answer (next service call) := by
  rw [perform_eq, h]

theorem perform_of_outcome_error {fault : Fault} (h : outcome service call = .error fault) :
    perform call service = .error fault (next service call) := by
  rw [perform_eq, h]

theorem idleCalls_cases (service : σ) :
    idleCalls service = [.activeDrivers] ∨
      idleCalls service = [.activeDrivers, .shutService] := by
  unfold idleCalls
  cases outcome service .activeDrivers with
  | error fault => exact .inl rfl
  | ok active =>
      by_cases hbusy : 0 < active
      · exact .inl (if_pos hbusy)
      · exact .inr (if_neg hbusy)

/-- Ending an idle service comes down to its calls. -/
theorem quitIfInactive_asks (service : σ) :
    (∃ quit, quitIfInactive service = .ok quit (after service (idleCalls service))) ∨
      ∃ fault, quitIfInactive service = .error fault (after service (idleCalls service)) := by
  unfold idleCalls
  cases hactive : outcome service .activeDrivers with
  | error fault => exact .inr ⟨fault, bind_of_error (perform_of_outcome_error hactive)⟩
  | ok active =>
      have hfirst : quitIfInactive service = (if 0 < active then pure false
          else perform .shutService >>= fun () => pure true : EStateM Fault σ Bool)
            (next service .activeDrivers) := bind_of_ok (perform_of_outcome_ok hactive)
      rw [hfirst]
      dsimp only
      by_cases hbusy : 0 < active
      · rw [if_pos hbusy, if_pos hbusy]
        exact .inl ⟨false, rfl⟩
      · rw [if_neg hbusy, if_neg hbusy]
        cases hshut : outcome (next service .activeDrivers) .shutService with
        | error fault => exact .inr ⟨fault, bind_of_error (perform_of_outcome_error hshut)⟩
        | ok _ => exact .inl ⟨true, bind_of_ok (perform_of_outcome_ok hshut)⟩

end Service

/-- A service with the calls that were asked of it, in order. -/
structure Recorded (σ : Type) where
  service : σ
  calls : List Call

namespace Recorded

variable {σ : Type} [Service σ]

/-- Every call is passed on to the service, and written down however it ends. -/
instance : Service (Recorded σ) where
  perform call := fun recorded =>
    match Service.perform call recorded.service with
    | .ok answer service => .ok answer ⟨service, recorded.calls ++ [call]⟩
    | .error fault service => .error fault ⟨service, recorded.calls ++ [call]⟩

/-- Writing calls down does not change what they come to. -/
@[simp] theorem outcome_eq (recorded : Recorded σ) (call : Call) :
    Service.outcome recorded call = Service.outcome recorded.service call := by
  simp only [Service.outcome, Service.perform]
  cases Service.perform call recorded.service <;> rfl

theorem next_eq (recorded : Recorded σ) (call : Call) :
    Service.next recorded call =
      ⟨Service.next recorded.service call, recorded.calls ++ [call]⟩ := by
  simp only [Service.next, Service.perform]
  cases Service.perform call recorded.service <;> rfl

theorem after_eq (recorded : Recorded σ) (calls : List Call) :
    Service.after recorded calls =
      ⟨Service.after recorded.service calls, recorded.calls ++ calls⟩ := by
  induction calls generalizing recorded with
  | nil => rw [List.append_nil]; rfl
  | cons call rest ih =>
      change Service.after (Service.next recorded call) rest = _
      rw [ih, next_eq, List.append_assoc]
      rfl

@[simp] theorem idleCalls_eq (recorded : Recorded σ) :
    Service.idleCalls recorded = Service.idleCalls recorded.service := by
  unfold Service.idleCalls
  rw [outcome_eq]

@[simp] theorem calls_after (recorded : Recorded σ) (calls : List Call) :
    (Service.after recorded calls).calls = recorded.calls ++ calls := by
  rw [after_eq]

end Recorded

namespace Seat

section

variable {σ : Type}

/-- An outcome at a seat. -/
def ending {α : Type} (seat : Seat σ) : Except Fault α → EStateM.Result Fault (Seat σ) α
  | .ok a => .ok a seat
  | .error fault => .error fault seat

/-- The seat at which an act ends. -/
def endOf {α : Type} : EStateM.Result Fault (Seat σ) α → Seat σ
  | .ok _ last => last
  | .error _ last => last

@[simp] theorem endOf_ending {α : Type} (seat : Seat σ) (outcome : Except Fault α) :
    endOf (seat.ending outcome) = seat := by
  cases outcome <;> rfl

/-- Whether giving the connection up closes it. -/
def closes (seat : Seat σ) : Bool :=
  match seat.executor.link with
  | .owned => true
  | .shared => seat.connection.holders ≤ 1
  | .released => false

end

variable {σ : Type} [Service σ]

/-- The seat once its service was asked for calls. -/
def asked (seat : Seat σ) (calls : List Call) : Seat σ :=
  seat.withService (Service.after seat.connection.service calls)

/-- The calls that the service of a seat was asked for. -/
def calls (seat : Seat (Recorded σ)) : List Call := seat.connection.service.calls

@[simp] theorem executor_asked (seat : Seat σ) (calls : List Call) :
    (seat.asked calls).executor = seat.executor := rfl

@[simp] theorem calls_asked (seat : Seat (Recorded σ)) (calls : List Call) :
    (seat.asked calls).calls = seat.calls ++ calls := Recorded.calls_after _ calls

theorem asked_recorded (executor : Executor) (service : σ) (first calls : List Call)
    (holders : Nat) :
    (⟨executor, ⟨⟨service, first⟩, holders⟩⟩ : Seat (Recorded σ)).asked calls =
      ⟨executor, ⟨⟨Service.after service calls, first ++ calls⟩, holders⟩⟩ := by
  rw [asked, Recorded.after_eq]
  rfl

theorem asked_append (seat : Seat σ) (first second : List Call) :
    (seat.asked first).asked second = seat.asked (first ++ second) := by
  unfold asked
  rw [Service.after, Service.after, Service.after, List.foldl_append]
  rfl

end Seat

/-- What is done with an executor. -/
inductive Executor.Step where
  | bind (id : SessionId)
  | execute (name : String) (params : Json)
  | release
  | quitIfIdle

namespace Executor.Step

/-- The type of a step's answer. -/
abbrev Answer : Step → Type
  | bind _ => Unit
  | execute .. => Outcome
  | release => Unit
  | quitIfIdle => Bool

/-- The act of a step. -/
def act {σ : Type} [Service σ] : (step : Step) → Act σ step.Answer
  | bind id => Act.bind id
  | execute name params => Act.execute name params
  | release => Act.release
  | quitIfIdle => Act.quitIfIdle

end Executor.Step

namespace Executor

/-- Why a command is refused before the service is asked, if it is. -/
def refusal? (executor : Executor) (name : String) : Option Fault :=
  if name ∉ commandNames then some (.unrecognizedCommand name)
  else if executor.session = none ∧ ¬ (name = "newSession" ∨ name = "status") then
    some .sessionNotBound
  else if executor.isReleased then some .connectionClosed
  else none

/-- The calls that run a command: one, unless the command is refused. -/
def commandCalls (executor : Executor) (name : String) (params : Json) : List Call :=
  match executor.refusal? name with
  | some _ => []
  | none => [.execute (executor.session.map SessionId.text) name params.render]

theorem isReleased_of_owned {executor : Executor} (h : executor.link = .owned) :
    executor.isReleased = false := by
  rw [isReleased, h]
  rfl

/-- The executor after a step.  Nothing that the service does matters to it. -/
def next (executor : Executor) : Step → Executor
  | .bind id => { executor with session := executor.session.or (some id) }
  | .release => { executor with link := .released }
  | _ => executor

end Executor

namespace Command

theorem eq_iff_name_eq {first second : Command} : first = second ↔ first.name = second.name := by
  cases first
  cases second
  exact Command.mk.injEq .. ▸ Iff.rfl

theorem isSessionFree_iff (command : Command) :
    command.isSessionFree ↔ command.name = "newSession" ∨ command.name = "status" := by
  rw [isSessionFree, Bool.or_eq_true, decide_eq_true_eq, decide_eq_true_eq, eq_iff_name_eq,
    eq_iff_name_eq]
  rfl

end Command

namespace Seat

section

variable {σ : Type}

/-- How many hold the connection after a step. -/
def holdersAfter (seat : Seat σ) : Executor.Step → Nat
  | .release => seat.connection.holders - (if seat.executor.link = .shared then 1 else 0)
  | _ => seat.connection.holders

/-- Only giving the connection up changes how many hold it. -/
theorem holdersAfter_of_ne (seat : Seat σ) {step : Executor.Step} (hstep : step ≠ .release) :
    seat.holdersAfter step = seat.connection.holders := by
  cases step with
  | release => exact absurd rfl hstep
  | _ => rfl

/-- What becomes of a seat in a step, apart from its service. -/
def moved (seat : Seat σ) (step : Executor.Step) : Seat σ :=
  ⟨seat.executor.next step, { seat.connection with holders := seat.holdersAfter step }⟩

end

variable {σ : Type} [Service σ]

/-- The seat after a step, however it ended. -/
def step (seat : Seat σ) (step : Executor.Step) : Seat σ := endOf (step.act seat)

/-- The calls that a step asks of the service. -/
def asks (seat : Seat σ) : Executor.Step → List Call
  | .bind _ => []
  | .execute name params => seat.executor.commandCalls name params
  | .release => if seat.closes then [.close] else []
  | .quitIfIdle =>
    if seat.executor.isReleased then [] else Service.idleCalls seat.connection.service

end Seat

/-- The reasons for which a command is refused, each with what it means for the ones before. -/
theorem Executor.refusal?_cases (executor : Executor) (name : String) :
    (name ∉ commandNames ∧ executor.refusal? name = some (.unrecognizedCommand name)) ∨
      ∃ command : Command, command.name = name ∧
        ((executor.session = none ∧ command.isSessionFree = false ∧
            executor.refusal? name = some .sessionNotBound) ∨
          (executor.session.isSome ∨ command.isSessionFree) ∧
            ((executor.isReleased = true ∧ executor.refusal? name = some .connectionClosed) ∨
              (executor.isReleased = false ∧ executor.refusal? name = none))) := by
  unfold refusal?
  by_cases hlisted : name ∈ commandNames
  · refine .inr ⟨⟨name, hlisted⟩, rfl, ?_⟩
    rw [if_neg (not_not_intro hlisted), Command.isSessionFree_iff, Option.isSome_iff_ne_none,
      Bool.eq_false_iff, ne_eq, Command.isSessionFree_iff]
    by_cases hunbound : executor.session = none ∧ ¬ (name = "newSession" ∨ name = "status")
    · rw [if_pos hunbound]
      exact .inl ⟨hunbound.1, hunbound.2, rfl⟩
    · rw [if_neg hunbound]
      rw [Decidable.not_and_iff_not_or_not, Decidable.not_not] at hunbound
      cases hreleased : executor.isReleased with
      | true => exact .inr ⟨hunbound, .inl ⟨rfl, rfl⟩⟩
      | false => exact .inr ⟨hunbound, .inr ⟨rfl, rfl⟩⟩
  · exact .inl ⟨hlisted, if_pos hlisted⟩

namespace Act

section

variable {σ α : Type} {seat : Seat σ} {act : EStateM Fault σ α}

theorem reach_of_released (h : seat.executor.isReleased = true) :
    reach act seat = .error .connectionClosed seat := by
  change (if seat.executor.isReleased then throw .connectionClosed else onService act :
    Act σ α) seat = _
  rw [h]
  rfl

/-- A session is bound if there is none, and the bound one stays. -/
theorem bind_of_unbound (id : SessionId) (h : seat.executor.session = none) :
    bind id seat = .ok () (seat.moved (.bind id)) := by
  rcases seat with ⟨⟨link, session, adapter⟩, connection⟩
  cases h
  rfl

theorem bind_of_bound {current : SessionId} (id : SessionId)
    (h : seat.executor.session = some current) :
    bind id seat = seat.ending
      (if current = id then .ok () else .error (.sessionAlreadyBound current id)) := by
  rcases seat with ⟨⟨link, session, adapter⟩, connection⟩
  cases h
  unfold bind Executor.bind
  by_cases hsame : current = id
  · rw [if_pos hsame]
    dsimp only
    rw [if_pos hsame]
    rfl
  · rw [if_neg hsame]
    dsimp only
    rw [if_neg hsame]
    rfl

end

variable {σ : Type} [Service σ] {seat : Seat σ} {name : String}

theorem onService_perform (seat : Seat σ) (call : Call) :
    onService (Service.perform call) seat =
      (seat.asked [call]).ending (Service.outcome seat.connection.service call) := by
  cases h : Service.outcome seat.connection.service call with
  | ok answer => exact onService_of_ok (Service.perform_of_outcome_ok h)
  | error fault => exact onService_of_error (Service.perform_of_outcome_error h)

/-- What is not in the table is no command. -/
theorem execute_of_unlisted (params : Json) (h : name ∉ commandNames) :
    execute name params seat = .error (.unrecognizedCommand name) seat := by
  rw [execute, (Command.ofName?_eq_none_iff name).mpr h]
  rfl

theorem execute_of_unbound {command : Command} (params : Json)
    (hsession : seat.executor.session = none) (hfree : command.isSessionFree = false) :
    execute command.name params seat = .error .sessionNotBound seat := by
  rw [execute, Command.ofName?_name]
  change (if seat.executor.session.isNone && !command.isSessionFree then throw .sessionNotBound
    else _ : Act σ Outcome) seat = _
  rw [hsession, hfree]
  rfl

/-- Who gave the connection up reaches nothing with a command that may be run. -/
theorem execute_of_released {command : Command} (params : Json)
    (hsession : seat.executor.session.isSome ∨ command.isSessionFree)
    (hreleased : seat.executor.isReleased = true) :
    execute command.name params seat = .error .connectionClosed seat := by
  rw [execute_of_session hsession]
  exact map_of_error (reach_of_released hreleased)

/-- A command that may be run is one call of the service, and the answer is adapted. -/
theorem execute_of_held {command : Command} (params : Json)
    (hsession : seat.executor.session.isSome ∨ command.isSessionFree)
    (hheld : seat.executor.isReleased = false) :
    let call : Call :=
      .execute (seat.executor.session.map SessionId.text) command.name params.render
    execute command.name params seat = (seat.asked [call]).ending
      (seat.executor.adapter.adapt <$> Service.outcome seat.connection.service call) := by
  intro call
  have hcall := onService_perform seat call
  rw [execute_eq hheld hsession]
  cases houtcome : Service.outcome seat.connection.service call with
  | ok response =>
      rw [houtcome] at hcall
      exact map_of_ok hcall
  | error fault =>
      rw [houtcome] at hcall
      exact map_of_error hcall

/-- A command is refused for the first reason there is, and then nothing changes.  Without a
reason it is one call of the service, and the answer is adapted. -/
theorem execute_cases (seat : Seat σ) (name : String) (params : Json) :
    execute name params seat =
      match seat.executor.refusal? name with
      | some fault => .error fault seat
      | none =>
        let call : Call := .execute (seat.executor.session.map SessionId.text) name params.render
        (seat.asked [call]).ending
          (seat.executor.adapter.adapt <$> Service.outcome seat.connection.service call) := by
  rcases seat.executor.refusal?_cases name with ⟨hlisted, hrefusal⟩ | ⟨command, rfl, hlisted⟩
  · rw [hrefusal]
    exact execute_of_unlisted params hlisted
  · rcases hlisted with
      ⟨hunbound, hfree, hrefusal⟩ | ⟨hsession, ⟨hreleased, hrefusal⟩ | ⟨hheld, hrefusal⟩⟩
    · rw [hrefusal]
      exact execute_of_unbound params hunbound hfree
    · rw [hrefusal]
      exact execute_of_released params hsession hreleased
    · rw [hrefusal]
      exact execute_of_held params hsession hheld

/-- Giving a connection up closes it or asks for nothing. -/
theorem release_cases (seat : Seat σ) :
    release seat =
      if seat.closes then
        ((seat.moved .release).asked [.close]).ending
          (Service.outcome seat.connection.service .close)
      else .ok () (seat.moved .release) := by
  rcases seat with ⟨⟨link, session, adapter⟩, connection⟩
  cases link with
  | owned => exact onService_perform _ .close
  | released => rfl
  | shared =>
      let left : Seat σ :=
        ⟨⟨.released, session, adapter⟩, ⟨connection.service, connection.holders - 1⟩⟩
      change (if connection.holders ≤ 1 then onService (Service.perform .close) else pure () :
        Act σ Unit) left = if decide (connection.holders ≤ 1) then _ else .ok () left
      by_cases hlast : connection.holders ≤ 1
      · rw [if_pos hlast, if_pos (decide_eq_true hlast)]
        exact onService_perform left .close
      · rw [if_neg hlast, if_neg (by rwa [decide_eq_true_iff])]
        rfl

/-- Ending an idle service asks for its calls, if the connection is held. -/
theorem quitIfIdle_cases (seat : Seat σ) :
    ∃ quit, quitIfIdle seat = .ok quit (seat.asked (seat.asks .quitIfIdle)) := by
  unfold quitIfIdle
  rw [Seat.asks]
  cases hreleased : seat.executor.isReleased with
  | true =>
      rw [reach_of_released hreleased]
      exact ⟨false, rfl⟩
  | false =>
      rw [reach_of_held hreleased]
      rcases Service.quitIfInactive_asks seat.connection.service with
        ⟨quit, hquit⟩ | ⟨fault, hquit⟩
      · rw [onService_of_ok hquit]
        exact ⟨quit, rfl⟩
      · rw [onService_of_error hquit]
        exact ⟨false, rfl⟩

end Act

namespace Seat

variable {σ : Type} [Service σ]

theorem moved_asked (seat : Seat σ) (calls : List Call) (step : Executor.Step) :
    (seat.asked calls).moved step = (seat.moved step).asked calls := rfl

/-- All that a step does: it moves the seat and asks for its calls. -/
theorem step_eq (seat : Seat σ) (step : Executor.Step) :
    seat.step step = (seat.moved step).asked (seat.asks step) := by
  cases step with
  | bind id =>
      change endOf (Act.bind id seat) = seat.moved (.bind id)
      cases hsession : seat.executor.session with
      | none =>
          rw [Act.bind_of_unbound id hsession]
          rfl
      | some current =>
          rw [Act.bind_of_bound id hsession, endOf_ending, moved, Executor.next, hsession,
            Option.some_or, ← hsession]
          rfl
  | execute name params =>
      change endOf (Act.execute name params seat) = _
      rw [Act.execute_cases, asks, Executor.commandCalls]
      cases seat.executor.refusal? name with
      | some fault => rfl
      | none => exact endOf_ending _ _
  | release =>
      change endOf (Act.release seat) = _
      rw [Act.release_cases, asks]
      cases seat.closes with
      | true => exact endOf_ending _ _
      | false => rfl
  | quitIfIdle =>
      obtain ⟨quit, hquit⟩ := Act.quitIfIdle_cases seat
      change endOf (Act.quitIfIdle seat) = _
      rw [hquit]
      rfl

@[simp] theorem executor_step (seat : Seat σ) (step : Executor.Step) :
    (seat.step step).executor = seat.executor.next step := by
  rw [step_eq]
  rfl

@[simp] theorem holders_step (seat : Seat σ) (step : Executor.Step) :
    (seat.step step).connection.holders = seat.holdersAfter step := by
  rw [step_eq]
  rfl

/-- The calls that are written down in a step are the ones it asks for. -/
@[simp] theorem calls_step (seat : Seat (Recorded σ)) (step : Executor.Step) :
    (seat.step step).calls = seat.calls ++ seat.asks step := by
  rw [step_eq, calls_asked]
  rfl

end Seat

end BrowserBridge
