import BrowserBridge.Proofs.Session.Step
import BrowserBridge.Service.Scripted
import BrowserBridge.Session.Driver

/-!
What comes of a handshake.  It is accepted or refused for one reason, which the service's
answers to its two calls decide alone.  A session that is accepted is bound; one that is
refused leaves the connection given up and the service ended if it was idle, and the fault
told is the reason, whatever came of cleaning up.
-/

namespace BrowserBridge

open Wire

theorem SessionId.text_of_ofText? {text : String} {id : SessionId} (h : ofText? text = some id) :
    id.text = text := by
  unfold ofText? at h
  split at h
  · cases h
    rfl
  · cases h

theorem Act.run_eq_execute {σ : Type} [Service σ] (command : Command) (params : Json) :
    (run command params : Act σ Outcome) = execute command.name params := by
  rw [execute, Command.ofName?_name]

namespace Driver

/-- What is made of the answer that the service gives. -/
def judge (outcome : Outcome) : Except Fault SessionId :=
  if outcome.isSuccess then
    match outcome.sessionId.bind SessionId.ofText? with
    | some id => .ok id
    | none => .error (.sessionNotCreated outcome.status "Response carried no session id")
  else
    .error (.sessionNotCreated outcome.status
      ("newSession returned status " ++ toString outcome.status.toInt))

/-- An answer is made a session or a fault, and nothing else happens. -/
theorem judge_eq {σ : Type} (outcome : Outcome) (seat : Seat σ) :
    (if outcome.isSuccess then
        match outcome.sessionId.bind SessionId.ofText? with
        | some id => pure id
        | none => throw (.sessionNotCreated outcome.status "Response carried no session id")
      else
        throw (.sessionNotCreated outcome.status
          ("newSession returned status " ++ toString outcome.status.toInt)) :
      Act σ SessionId) seat = seat.ending (judge outcome) := by
  unfold judge
  cases outcome.isSuccess with
  | false => rfl
  | true => cases outcome.sessionId.bind SessionId.ofText? <;> rfl

section

variable {response : Response}

theorem status_adapt (adapter : Adapter) (h : response.status = none ∨ response.status = some 0) :
    (adapter.adapt response).status = Outcome.successStatus := by
  rcases h with hnone | hzero
  · rw [Adapter.adapt, hnone]
    rfl
  · rw [Adapter.adapt, hzero]
    rfl

theorem judge_of_session {id : SessionId} (adapter : Adapter)
    (hstatus : response.status = none ∨ response.status = some 0)
    (hid : response.sessionId = some id.text) : judge (adapter.adapt response) = .ok id := by
  have hsession : (adapter.adapt response).sessionId.bind SessionId.ofText? = some id := by
    rw [Adapter.adapt, hid, Option.bind_some, SessionId.ofText?_text]
  have hsuccess : (adapter.adapt response).isSuccess = true :=
    decide_eq_true (status_adapt adapter hstatus)
  rw [judge, if_pos hsuccess, hsession]

theorem judge_of_blank (adapter : Adapter)
    (hstatus : response.status = none ∨ response.status = some 0)
    (hid : ∀ text, response.sessionId = some text → Text.isBlank text = true) :
    judge (adapter.adapt response) =
      .error (.sessionNotCreated 0 "Response carried no session id") := by
  have hsession : (adapter.adapt response).sessionId.bind SessionId.ofText? = none := by
    rw [Option.bind_eq_none_iff]
    exact fun text htext => (SessionId.ofText?_eq_none_iff text).mpr (hid text htext)
  have hsuccess : (adapter.adapt response).isSuccess = true :=
    decide_eq_true (status_adapt adapter hstatus)
  rw [judge, if_pos hsuccess, hsession, status_adapt adapter hstatus]
  rfl

theorem judge_of_status {status : Int32} (adapter : Adapter)
    (hstatus : response.status = some status) (hfailed : status ≠ 0) :
    judge (adapter.adapt response) =
      .error (.sessionNotCreated status ("newSession returned status " ++
        toString status.toInt)) := by
  have hadapted : (adapter.adapt response).status = status := by
    rw [Adapter.adapt, hstatus]
    rfl
  have hfails : ¬ (adapter.adapt response).isSuccess = true := by
    rw [Outcome.isSuccess, hadapted, decide_eq_true_iff]
    exact hfailed
  rw [judge, if_neg hfails, hadapted]

end

/-- The call that points the service at the hub. -/
def attachCall (driver : Driver) : Call := .attach driver.hub

/-- The call that asks for a session. -/
def sessionCall (driver : Driver) : Call :=
  .execute none Command.newSession.name (newSessionParams driver.capabilities).render

variable {σ : Type} [Service σ]

/-- The service accepts the handshake: it is pointed at the hub and answers with a session and
no status or that of success. -/
structure Accepted (driver : Driver) (service : σ) (id : SessionId) : Prop where
  attached : Service.outcome service driver.attachCall = .ok ()
  answered : ∃ response,
    Service.outcome (Service.next service driver.attachCall) driver.sessionCall = .ok response ∧
      (response.status = none ∨ response.status = some 0) ∧ response.sessionId = some id.text

/-- The service refuses the handshake with a fault, after calls. -/
inductive Refused (driver : Driver) (service : σ) : Fault → List Call → Prop
  /-- It cannot be pointed at the hub, and is not asked for a session. -/
  | attach {fault : Fault} (hattach : Service.outcome service driver.attachCall = .error fault) :
    Refused driver service fault [driver.attachCall]
  /-- The command that starts a session fails. -/
  | session {fault : Fault} (hattach : Service.outcome service driver.attachCall = .ok ())
    (hsession : Service.outcome (Service.next service driver.attachCall) driver.sessionCall =
      .error fault) :
    Refused driver service fault [driver.attachCall, driver.sessionCall]
  /-- The answer has a status of failure, with or without a session. -/
  | status {response : Response} {status : Int32}
    (hattach : Service.outcome service driver.attachCall = .ok ())
    (hsession : Service.outcome (Service.next service driver.attachCall) driver.sessionCall =
      .ok response)
    (hstatus : response.status = some status) (hfailed : status ≠ 0) :
    Refused driver service
      (.sessionNotCreated status ("newSession returned status " ++ toString status.toInt))
      [driver.attachCall, driver.sessionCall]
  /-- The answer has no session, or one whose id is blank. -/
  | blank {response : Response} (hattach : Service.outcome service driver.attachCall = .ok ())
    (hsession : Service.outcome (Service.next service driver.attachCall) driver.sessionCall =
      .ok response)
    (hstatus : response.status = none ∨ response.status = some 0)
    (hid : ∀ text, response.sessionId = some text → Text.isBlank text = true) :
    Refused driver service (.sessionNotCreated 0 "Response carried no session id")
      [driver.attachCall, driver.sessionCall]

/-- There is no other outcome of a handshake. -/
theorem accepted_or_refused (driver : Driver) (service : σ) :
    (∃ id, driver.Accepted service id) ∨ ∃ fault calls, driver.Refused service fault calls := by
  cases hattach : Service.outcome service driver.attachCall with
  | error fault => exact .inr ⟨_, _, .attach hattach⟩
  | ok _ =>
      cases hsession : Service.outcome (Service.next service driver.attachCall)
          driver.sessionCall with
      | error fault => exact .inr ⟨_, _, .session hattach hsession⟩
      | ok response =>
          by_cases hstatus : response.status = none ∨ response.status = some 0
          · cases hid : response.sessionId.bind SessionId.ofText? with
            | some id =>
                obtain ⟨text, htext, hofText⟩ := Option.bind_eq_some_iff.mp hid
                rw [← SessionId.text_of_ofText? hofText] at htext
                exact .inl ⟨id, hattach, response, hsession, hstatus, htext⟩
            | none =>
                refine .inr ⟨_, _, .blank hattach hsession hstatus fun text htext => ?_⟩
                rw [htext] at hid
                exact (SessionId.ofText?_eq_none_iff text).mp hid
          · cases hsome : response.status with
            | none => exact absurd (.inl hsome) hstatus
            | some status =>
                refine .inr ⟨_, _, .status hattach hsession hsome fun hzero => ?_⟩
                exact hstatus (.inr (hzero ▸ hsome))

section

variable {driver : Driver} {seat : Seat σ}

theorem reach_attach (driver : Driver) (hheld : seat.executor.isReleased = false) :
    Act.reach (Service.perform driver.attachCall) seat =
      (seat.asked [driver.attachCall]).ending
        (Service.outcome seat.connection.service driver.attachCall) := by
  rw [Act.reach_of_held hheld, Act.onService_perform]

theorem run_session (driver : Driver) (hheld : seat.executor.isReleased = false)
    (hunbound : seat.executor.session = none) :
    Act.run .newSession (newSessionParams driver.capabilities) (seat.asked [driver.attachCall]) =
      (seat.asked [driver.attachCall, driver.sessionCall]).ending
        (seat.executor.adapter.adapt <$> Service.outcome
          (Service.next seat.connection.service driver.attachCall) driver.sessionCall) := by
  have hexecute : Act.execute Command.newSession.name (newSessionParams driver.capabilities)
      (seat.asked [driver.attachCall]) = _ :=
    Act.execute_of_held _ (.inr (by decide)) hheld
  rw [Seat.executor_asked, hunbound, Seat.asked_append] at hexecute
  exact (congrFun (Act.run_eq_execute ..) _).trans hexecute

theorem handshake_of_attach_error {fault : Fault} (hheld : seat.executor.isReleased = false)
    (hattach : Service.outcome seat.connection.service driver.attachCall = .error fault) :
    driver.handshake seat = .error fault (seat.asked [driver.attachCall]) := by
  have hreach := driver.reach_attach hheld
  rw [hattach] at hreach
  exact bind_of_error hreach

theorem handshake_of_attached (hheld : seat.executor.isReleased = false)
    (hunbound : seat.executor.session = none)
    (hattach : Service.outcome seat.connection.service driver.attachCall = .ok ()) :
    driver.handshake seat = (seat.asked [driver.attachCall, driver.sessionCall]).ending
      ((seat.executor.adapter.adapt <$> Service.outcome
        (Service.next seat.connection.service driver.attachCall) driver.sessionCall) >>=
          judge) := by
  have hreach := driver.reach_attach hheld
  rw [hattach] at hreach
  have hrun := driver.run_session hheld hunbound
  refine (bind_of_ok hreach).trans ?_
  cases hsession : Service.outcome (Service.next seat.connection.service driver.attachCall)
      driver.sessionCall with
  | error fault =>
      rw [hsession] at hrun
      exact bind_of_error hrun
  | ok response =>
      rw [hsession] at hrun
      exact (bind_of_ok hrun).trans (judge_eq _ _)

theorem handshake_of_accepted {id : SessionId} (hheld : seat.executor.isReleased = false)
    (hunbound : seat.executor.session = none)
    (haccepted : driver.Accepted seat.connection.service id) :
    driver.handshake seat =
      .ok id (seat.asked [driver.attachCall, driver.sessionCall]) := by
  obtain ⟨response, hsession, hstatus, hid⟩ := haccepted.answered
  rw [handshake_of_attached hheld hunbound haccepted.attached, hsession]
  exact congrArg (Seat.ending _) (judge_of_session _ hstatus hid)

theorem handshake_of_refused {fault : Fault} {calls : List Call}
    (hheld : seat.executor.isReleased = false) (hunbound : seat.executor.session = none)
    (hrefused : driver.Refused seat.connection.service fault calls) :
    driver.handshake seat = .error fault (seat.asked calls) := by
  cases hrefused with
  | attach hattach => exact handshake_of_attach_error hheld hattach
  | session hattach hsession =>
      rw [handshake_of_attached hheld hunbound hattach, hsession]
      rfl
  | status hattach hsession hstatus hfailed =>
      rw [handshake_of_attached hheld hunbound hattach, hsession]
      exact congrArg (Seat.ending _) (judge_of_status _ hstatus hfailed)
  | blank hattach hsession hstatus hid =>
      rw [handshake_of_attached hheld hunbound hattach, hsession]
      exact congrArg (Seat.ending _) (judge_of_blank _ hstatus hid)

/-- Cleaning up never fails: it ends the service if it is idle and gives the connection up. -/
theorem cleanUp_eq (seat : Seat σ) :
    cleanUp seat = .ok () ((seat.step .quitIfIdle).step .release) := by
  obtain ⟨quit, hquit⟩ := Act.quitIfIdle_cases seat
  have hstep : seat.step .quitIfIdle = seat.asked (seat.asks .quitIfIdle) := by
    change Seat.endOf (Act.quitIfIdle seat) = _
    rw [hquit]
    rfl
  rw [cleanUp, hquit, hstep]
  dsimp only
  change _ = EStateM.Result.ok () (Seat.endOf (Act.release _))
  cases Act.release (seat.asked (seat.asks .quitIfIdle)) <;> rfl

/-- A session that the service accepts is bound. -/
theorem start_of_accepted {id : SessionId} (hheld : seat.executor.isReleased = false)
    (hunbound : seat.executor.session = none)
    (haccepted : driver.Accepted seat.connection.service id) :
    driver.start seat =
      .ok () ((seat.moved (.bind id)).asked [driver.attachCall, driver.sessionCall]) := by
  rw [start, handshake_of_accepted hheld hunbound haccepted]
  exact Act.bind_of_unbound id hunbound

/-- After a handshake that was refused the fault is told, and cleaning up comes last. -/
theorem start_of_refused_steps {fault : Fault} {calls : List Call}
    (hheld : seat.executor.isReleased = false) (hunbound : seat.executor.session = none)
    (hrefused : driver.Refused seat.connection.service fault calls) :
    driver.start seat =
      .error fault (((seat.asked calls).step .quitIfIdle).step .release) := by
  rw [start, handshake_of_refused hheld hunbound hrefused]
  dsimp only
  rw [cleanUp_eq]

/-- After a handshake that was refused the fault is told, and an owned connection is closed at
the end. -/
theorem start_of_refused {fault : Fault} {calls : List Call}
    (howned : seat.executor.link = .owned) (hunbound : seat.executor.session = none)
    (hrefused : driver.Refused seat.connection.service fault calls) :
    driver.start seat = .error fault ((seat.moved .release).asked
      (calls ++ Service.idleCalls (Service.after seat.connection.service calls) ++ [.close])) := by
  have hheld := Executor.isReleased_of_owned howned
  have hidle : (seat.asked calls).step .quitIfIdle = seat.asked
      (calls ++ Service.idleCalls (Service.after seat.connection.service calls)) := by
    rw [Seat.step_eq, Seat.asks, Seat.executor_asked, hheld, ← Seat.asked_append]
    rfl
  have hcloses (before : List Call) : (seat.asked before).asks .release = [.close] := by
    rw [Seat.asks, Seat.closes, Seat.executor_asked, howned]
    rfl
  rw [start_of_refused_steps hheld hunbound hrefused, hidle, Seat.step_eq, hcloses,
    Seat.moved_asked, Seat.asked_append]

end

section

variable {driver : Driver} {service : σ}

theorem outcome_session_recorded (driver : Driver) (service : σ) (calls : List Call) :
    Service.outcome (Service.next (⟨service, calls⟩ : Recorded σ) driver.attachCall)
        driver.sessionCall =
      Service.outcome (Service.next service driver.attachCall) driver.sessionCall := by
  rw [Recorded.next_eq, Recorded.outcome_eq]

theorem Accepted.recorded {id : SessionId} (h : driver.Accepted service id) (calls : List Call) :
    driver.Accepted (⟨service, calls⟩ : Recorded σ) id where
  attached := (Recorded.outcome_eq ..).trans h.attached
  answered := by
    rw [outcome_session_recorded]
    exact h.answered

theorem Refused.recorded {fault : Fault} {asked : List Call}
    (h : driver.Refused service fault asked) (calls : List Call) :
    driver.Refused (⟨service, calls⟩ : Recorded σ) fault asked := by
  have hsame := outcome_session_recorded driver service calls
  cases h with
  | attach hattach => exact .attach ((Recorded.outcome_eq ..).trans hattach)
  | session hattach hsession =>
      exact .session ((Recorded.outcome_eq ..).trans hattach) (hsame.trans hsession)
  | status hattach hsession hstatus hfailed =>
      exact .status ((Recorded.outcome_eq ..).trans hattach) (hsame.trans hsession) hstatus
        hfailed
  | blank hattach hsession hstatus hid =>
      exact .blank ((Recorded.outcome_eq ..).trans hattach) (hsame.trans hsession) hstatus hid

/-- A handshake with a service: what comes of it, and the calls that it takes. -/
inductive Handshake (driver : Driver) (service : σ) : Except Fault SessionId → List Call → Prop
  | accepted {id : SessionId} (haccepted : driver.Accepted service id) :
    Handshake driver service (.ok id) [driver.attachCall, driver.sessionCall]
  | refused {fault : Fault} {calls : List Call} (hrefused : driver.Refused service fault calls) :
    Handshake driver service (.error fault) calls

/-- A handshake begins by pointing the service at the hub. -/
theorem Handshake.head?_eq {outcome : Except Fault SessionId} {calls : List Call}
    (h : driver.Handshake service outcome calls) : calls.head? = some (.attach driver.hub) := by
  cases h with
  | accepted => rfl
  | refused hrefused => cases hrefused <;> rfl

/-- Starting a session comes to a handshake, whoever else holds the connection; cleaning up comes
after it and does not change what is told. -/
theorem start_handshake (driver : Driver) {seat : Seat (Recorded σ)}
    (hheld : seat.executor.isReleased = false) (hunbound : seat.executor.session = none) :
    ∃ outcome calls last, driver.Handshake seat.connection.service.service outcome calls ∧
      driver.start seat = Seat.ending last (outcome.map fun _ => ()) ∧
      seat.calls ++ calls <+: last.calls := by
  rcases seat with ⟨executor, ⟨⟨service, before⟩, holders⟩⟩
  rcases driver.accepted_or_refused service with ⟨id, haccepted⟩ | ⟨fault, calls, hrefused⟩
  · refine ⟨.ok id, _, _, .accepted haccepted,
      start_of_accepted hheld hunbound (haccepted.recorded before), ?_⟩
    rw [Seat.calls_asked]
    exact List.prefix_rfl
  · refine ⟨.error fault, calls, _, .refused hrefused,
      start_of_refused_steps hheld hunbound (hrefused.recorded before), ?_⟩
    rw [Seat.calls_step, Seat.calls_step, Seat.calls_asked, List.append_assoc]
    exact List.prefix_append _ _

end

/-- Starting a session over a service that the executor owns.  It succeeds exactly if the
service accepts the handshake; then the session is bound and the two calls of the handshake
are all there were.  It fails exactly if the service refuses the handshake, and with the
reason; then the connection is given up, and after the calls of the handshake come the ones
that end an idle service, and then that which closes the connection. -/
theorem start_outcome_iff (driver : Driver) (service : σ) (adapter : Adapter) (holders : Nat) :
    let seatAt (link : Link) (session : Option SessionId) (calls : List Call) :
        Seat (Recorded σ) :=
      ⟨⟨link, session, adapter⟩, ⟨⟨Service.after service calls, calls⟩, holders⟩⟩
    let seat := seatAt .owned none []
    (∀ last, driver.start seat = .ok () last ↔
      ∃ id, driver.Accepted service id ∧
        last = seatAt .owned (some id) [driver.attachCall, driver.sessionCall]) ∧
    ∀ fault last, driver.start seat = .error fault last ↔
      ∃ calls, driver.Refused service fault calls ∧
        last = seatAt .released none
          (calls ++ Service.idleCalls (Service.after service calls) ++ [.close]) := by
  intro seatAt seat
  have haccepts {id : SessionId} (haccepted : driver.Accepted service id) : driver.start seat =
      .ok () (seatAt .owned (some id) [driver.attachCall, driver.sessionCall]) := by
    rw [start_of_accepted rfl rfl (haccepted.recorded [])]
    exact congrArg (EStateM.Result.ok ()) (Seat.asked_recorded ..)
  have hrefuses {fault : Fault} {calls : List Call}
      (hrefused : driver.Refused service fault calls) :
      driver.start seat = .error fault (seatAt .released none
        (calls ++ Service.idleCalls (Service.after service calls) ++ [.close])) := by
    rw [start_of_refused rfl rfl (hrefused.recorded [])]
    refine congrArg (EStateM.Result.error fault) ?_
    rw [Recorded.after_eq, Recorded.idleCalls_eq]
    exact Seat.asked_recorded ..
  constructor
  · intro last
    constructor
    · intro hstart
      rcases driver.accepted_or_refused service with ⟨id, haccepted⟩ | ⟨fault, calls, hrefused⟩
      · rw [haccepts haccepted] at hstart
        cases hstart
        exact ⟨id, haccepted, rfl⟩
      · rw [hrefuses hrefused] at hstart
        cases hstart
    · rintro ⟨id, haccepted, rfl⟩
      exact haccepts haccepted
  · intro fault last
    constructor
    · intro hstart
      rcases driver.accepted_or_refused service with ⟨id, haccepted⟩ | ⟨cause, calls, hrefused⟩
      · rw [haccepts haccepted] at hstart
        cases hstart
      · rw [hrefuses hrefused] at hstart
        cases hstart
        exact ⟨calls, hrefused, rfl⟩
    · rintro ⟨calls, hrefused, rfl⟩
      exact hrefuses hrefused

/-- A session that is answered with a status of failure by an idle service, which then can
neither be ended nor closed. -/
theorem start_outcome_iff_of_status :
    let driver : Driver := ⟨"http://hub", [], false⟩
    let response : Response := ⟨none, some "s", some 33, none⟩
    let service : ScriptedService :=
      ⟨[.done, .response response, .count 0, .fault .connectionPoisoned, .fault .connectionClosed],
        []⟩
    let seat : Seat (Recorded ScriptedService) := ⟨.fresh .owned .setOnly, ⟨⟨service, []⟩, 1⟩⟩
    ∃ last, driver.start seat =
        .error (.sessionNotCreated 33 "newSession returned status 33") last ∧
      last.executor = ⟨.released, none, .setOnly⟩ ∧
      last.calls =
        [driver.attachCall, driver.sessionCall, .activeDrivers, .shutService, .close] := by
  intro driver response service seat
  have hrefused : driver.Refused service
      (.sessionNotCreated 33 "newSession returned status 33")
      [driver.attachCall, driver.sessionCall] :=
    .status (rfl : _ = Except.ok ()) (rfl : _ = Except.ok response) rfl (by decide)
  have hstart := ((start_outcome_iff driver service .setOnly 1).2 _ _).mpr ⟨_, hrefused, rfl⟩
  exact ⟨_, hstart, rfl, rfl⟩

end Driver

end BrowserBridge
