import BrowserBridge.Proofs.Session.Handshake

/-!
The life of a driver.  Between its handshake and its end every method comes to the same calls,
whatever came of those before it, and the end comes to two calls, however the first one turns
out.
-/

namespace BrowserBridge

open Wire

namespace Seat

variable {σ α β : Type}

/-- What is made of an answer does not matter to where an act ends. -/
theorem endOf_bind_pure (act : Act σ α) (f : α → β) (seat : Seat σ) :
    endOf ((act >>= fun a => pure (f a)) seat) = endOf (act seat) := by
  change endOf (EStateM.bind act _ seat) = _
  rw [EStateM.bind]
  cases act seat <;> rfl

end Seat

namespace Driver

/-- The call that runs a command for a session. -/
def commandCall (id : SessionId) (command : Command) (params : Json) : Call :=
  .execute (some id.text) command.name params.render

/-- A method of a driver, apart from the one that ends it. -/
inductive Method where
  | execute (name : String) (params : Json)
  | get (url : String)
  | title
  | currentUrl
  | checkLayout (test specs : String) (included excluded : List String)
  | generateReport (folder : String)
  | activeDrivers

namespace Method

/-- The type of a method's answer. -/
abbrev Answer : Method → Type
  | execute .. => Outcome
  | get _ => Unit
  | title => Option String
  | currentUrl => Option String
  | checkLayout .. => Int32
  | generateReport _ => Unit
  | activeDrivers => Int32

/-- The act of a method. -/
def act {σ : Type} [Service σ] : (method : Method) → Act σ method.Answer
  | execute name params => Act.execute name params
  | get url => Driver.get url
  | title => Driver.title
  | currentUrl => Driver.currentUrl
  | checkLayout test specs included excluded => Driver.checkLayout test specs included excluded
  | generateReport folder => Driver.generateReport folder
  | activeDrivers => Driver.activeDrivers

/-- The calls of a method within a session.  A name that is no command comes to none. -/
def calls (id : SessionId) : Method → List Call
  | execute name params =>
    match Command.ofName? name with
    | some command => [commandCall id command params]
    | none => []
  | get url => [commandCall id .get (.object [("url", .string url)])]
  | title => [commandCall id .title (.object [])]
  | currentUrl => [commandCall id .currentUrl (.object [])]
  | checkLayout test specs included excluded =>
    [.checkLayout test id.text specs included excluded]
  | generateReport folder => [.generateReport folder]
  | activeDrivers => [.activeDrivers]

end Method

section

variable {σ : Type} [Service σ] {seat middle last : Seat σ}

theorem quit_of_ok {outcome : Outcome}
    (hrun : Act.run .quit (.object []) seat = .ok outcome middle) :
    quit seat = Act.release middle := by
  rw [quit, hrun]

/-- A fault of the command that quits is told, whatever comes of giving the connection up. -/
theorem quit_of_error {fault : Fault} {released : Except Fault Unit}
    (hrun : Act.run .quit (.object []) seat = .error fault middle)
    (hrelease : Act.release middle = last.ending released) : quit seat = .error fault last := by
  rw [quit, hrun]
  dsimp only
  rw [hrelease]
  cases released <;> rfl

end

end Driver

/-- A call that belongs to a session or to none, and leaves the connection open. -/
inductive Call.Within (id : SessionId) : Call → Prop
  | execute (name params : String) : Within id (.execute (some id.text) name params)
  | checkLayout (test specs : String) (included excluded : List String) :
    Within id (.checkLayout test id.text specs included excluded)
  | generateReport (folder : String) : Within id (.generateReport folder)
  | activeDrivers : Within id .activeDrivers

namespace Seat

variable {σ : Type} [Service σ]

/-- The seat of a driver after a method, however it ended. -/
def use (seat : Seat σ) (method : Driver.Method) : Seat σ := endOf (method.act seat)

/-- The seat of a driver after methods in order. -/
def useAll (seat : Seat σ) (methods : List Driver.Method) : Seat σ := methods.foldl use seat

/-- A seat that has its connection for itself and a session. -/
structure Runs (seat : Seat σ) (id : SessionId) : Prop where
  owned : seat.executor.link = .owned
  bound : seat.executor.session = some id

variable {seat : Seat σ} {id : SessionId}

omit [Service σ] in
theorem Runs.held (h : seat.Runs id) : seat.executor.isReleased = false :=
  Executor.isReleased_of_owned h.owned

/-- Where a seat is when its service was asked for calls does not matter to its session. -/
theorem Runs.asked (h : seat.Runs id) (calls : List Call) : (seat.asked calls).Runs id :=
  ⟨h.owned, h.bound⟩

theorem Runs.run_eq (h : seat.Runs id) (command : Command) (params : Json) :
    Act.run command params seat = (seat.asked [Driver.commandCall id command params]).ending
      (seat.executor.adapter.adapt <$>
        Service.outcome seat.connection.service (Driver.commandCall id command params)) := by
  rw [Act.run_eq_execute, Act.execute_of_held params (.inl (h.bound ▸ rfl)) h.held, h.bound]
  rfl

theorem Runs.reach_eq (h : seat.Runs id) (call : Call) :
    Act.reach (Service.perform call) seat =
      (seat.asked [call]).ending (Service.outcome seat.connection.service call) := by
  rw [Act.reach_of_held h.held, Act.onService_perform]

theorem Runs.checkLayout_eq (h : seat.Runs id) (test specs : String)
    (included excluded : List String) :
    Driver.checkLayout test specs included excluded seat =
      Act.reach (Service.perform (.checkLayout test id.text specs included excluded)) seat := by
  have hget : (EStateM.get : Act σ (Seat σ)) seat = .ok seat seat := rfl
  refine (bind_of_ok hget).trans ?_
  rw [h.bound]

theorem Runs.endOf_run (h : seat.Runs id) (command : Command) (params : Json) :
    endOf (Act.run command params seat) =
      seat.asked [Driver.commandCall id command params] := by
  rw [h.run_eq, endOf_ending]

theorem Runs.endOf_reach (h : seat.Runs id) (call : Call) :
    endOf (Act.reach (Service.perform call) seat) = seat.asked [call] := by
  rw [h.reach_eq, endOf_ending]

/-- One method: its calls are asked for, and that is all. -/
theorem Runs.use_eq (h : seat.Runs id) (method : Driver.Method) :
    seat.use method = seat.asked (method.calls id) := by
  cases method with
  | execute name params =>
      change endOf (Act.execute name params seat) = _
      rw [Act.execute, Driver.Method.calls]
      cases Command.ofName? name with
      | none => rfl
      | some command => exact h.endOf_run command params
  | get url => exact (endOf_bind_pure ..).trans (h.endOf_run .get _)
  | title => exact (endOf_bind_pure ..).trans (h.endOf_run .title _)
  | currentUrl => exact (endOf_bind_pure ..).trans (h.endOf_run .currentUrl _)
  | checkLayout test specs included excluded =>
      change endOf (Driver.checkLayout test specs included excluded seat) = _
      rw [h.checkLayout_eq]
      exact h.endOf_reach _
  | generateReport folder => exact h.endOf_reach _
  | activeDrivers => exact h.endOf_reach _

/-- A run of methods. -/
theorem Runs.useAll_eq (h : seat.Runs id) (methods : List Driver.Method) :
    seat.useAll methods = seat.asked (methods.flatMap (Driver.Method.calls id)) := by
  induction methods generalizing seat with
  | nil => rfl
  | cons method rest ih =>
      change (seat.use method).useAll rest = _
      rw [h.use_eq, ih (h.asked _), asked_append, List.flatMap_cons]

theorem Runs.release_eq (h : seat.Runs id) :
    Act.release seat = ((seat.moved .release).asked [.close]).ending
      (Service.outcome seat.connection.service .close) := by
  have hcloses : seat.closes = true := by rw [closes, h.owned]
  rw [Act.release_cases, if_pos hcloses]

/-- The end: the command that quits and the closing of the connection, of which the first that
fails is told. -/
theorem Runs.quit_eq (h : seat.Runs id) :
    let quitCall := Driver.commandCall id .quit (.object [])
    Driver.quit seat = ((seat.moved .release).asked [quitCall, .close]).ending
      (Service.outcome seat.connection.service quitCall >>= fun _ =>
        Service.outcome (Service.next seat.connection.service quitCall) .close) := by
  intro quitCall
  have hquit := h.run_eq .quit (.object [])
  have hrelease := (h.asked [quitCall]).release_eq
  rw [moved_asked, asked_append] at hrelease
  cases houtcome : Service.outcome seat.connection.service quitCall with
  | ok response =>
      rw [houtcome] at hquit
      exact (Driver.quit_of_ok hquit).trans hrelease
  | error fault =>
      rw [houtcome] at hquit
      exact Driver.quit_of_error hquit hrelease

end Seat

namespace Driver

/-- The calls of a method belong to the session that the driver has. -/
theorem Method.within_calls (id : SessionId) (method : Method) :
    ∀ call ∈ method.calls id, call.Within id := by
  cases method with
  | execute name params =>
      rw [calls]
      cases Command.ofName? name with
      | none => exact fun call hcall => absurd hcall List.not_mem_nil
      | some command => exact List.forall_mem_singleton.mpr (.execute ..)
  | get url => exact List.forall_mem_singleton.mpr (.execute ..)
  | title => exact List.forall_mem_singleton.mpr (.execute ..)
  | currentUrl => exact List.forall_mem_singleton.mpr (.execute ..)
  | checkLayout test specs included excluded =>
      exact List.forall_mem_singleton.mpr (.checkLayout ..)
  | generateReport folder => exact List.forall_mem_singleton.mpr (.generateReport folder)
  | activeDrivers => exact List.forall_mem_singleton.mpr .activeDrivers

variable {σ : Type} [Service σ]

/-- A driver is started by an accepted handshake only. -/
theorem start_eq_ok {driver : Driver} {seat last : Seat σ} (howned : seat.executor.link = .owned)
    (hunbound : seat.executor.session = none) (hstart : driver.start seat = .ok () last) :
    ∃ id, driver.Accepted seat.connection.service id ∧
      last = (seat.moved (.bind id)).asked [driver.attachCall, driver.sessionCall] := by
  rcases driver.accepted_or_refused seat.connection.service with
    ⟨id, haccepted⟩ | ⟨fault, calls, hrefused⟩
  · rw [start_of_accepted (Executor.isReleased_of_owned howned) hunbound haccepted] at hstart
    cases hstart
    exact ⟨id, haccepted, rfl⟩
  · rw [start_of_refused howned hunbound hrefused] at hstart
    cases hstart

/-- The life of a driver that was started over a service which its executor owns, through any
methods and to its end, whatever the service answers.  The session is the one that the service
answered the handshake with, and stays.  Between the handshake and the end only the calls of
the methods are asked for; those that name a session name this one, and none closes the
connection.  The end asks for the command that quits and then closes the connection, each
once, also if the first fails; of their faults the first is told. -/
theorem started_until_quit (driver : Driver) (service : σ) (adapter : Adapter) (holders : Nat)
    (started : Seat (Recorded σ))
    (hstart : driver.start ⟨.fresh .owned adapter, ⟨⟨service, []⟩, holders⟩⟩ = .ok () started) :
    ∃ id response,
      Service.outcome (Service.next service driver.attachCall) driver.sessionCall =
          .ok response ∧
        response.sessionId = some id.text ∧
        ∀ methods : List Method,
          let last := started.useAll methods
          let used := methods.flatMap (Method.calls id)
          let quitCall := commandCall id .quit (.object [])
          let quitOutcome := Service.outcome last.connection.service quitCall
          let closeOutcome :=
            Service.outcome (Service.next last.connection.service quitCall) .close
          last.executor.session = some id ∧
            last.calls = [driver.attachCall, driver.sessionCall] ++ used ∧
            (∀ call ∈ used, call.Within id) ∧
            ∃ ended : Seat (Recorded σ),
              quit last = ended.ending (quitOutcome >>= fun _ => closeOutcome) ∧
              ended.executor = ⟨.released, some id, adapter⟩ ∧
              ended.calls = last.calls ++ [quitCall, .close] := by
  obtain ⟨id, haccepted, hstarted⟩ := start_eq_ok rfl rfl hstart
  obtain ⟨response, hsession, -, hid⟩ := haccepted.answered
  rw [outcome_session_recorded] at hsession
  refine ⟨id, response, hsession, hid, ?_⟩
  intro methods last used quitCall quitOutcome closeOutcome
  have hruns : started.Runs id := hstarted ▸ ⟨rfl, rfl⟩
  have hlast : last = started.asked used := hruns.useAll_eq methods
  have hlastRuns : last.Runs id := hlast ▸ hruns.asked used
  refine ⟨hlastRuns.bound, ?_, ?_, _, hlastRuns.quit_eq, ?_, ?_⟩
  · rw [hlast, hstarted, Seat.calls_asked, Seat.calls_asked]
    rfl
  · intro call hcall
    obtain ⟨method, -, hmethod⟩ := List.mem_flatMap.mp hcall
    exact method.within_calls id call hmethod
  · rw [hlast, hstarted]
    rfl
  · rw [Seat.calls_asked]
    rfl

/-- A driver whose user asks for another session and quits by hand before the end, over a
service that can neither quit nor close. -/
theorem started_until_quit_of_faults :
    let driver : Driver := ⟨"http://hub", [], false⟩
    let response (text : String) : Response := ⟨none, some text, some 0, none⟩
    let service : ScriptedService :=
      ⟨[.done, .response (response "s"), .response (response "t"), .fault .connectionPoisoned,
        .fault .connectionPoisoned, .fault .connectionClosed], []⟩
    let seat : Seat (Recorded ScriptedService) := ⟨.fresh .owned .setOnly, ⟨⟨service, []⟩, 1⟩⟩
    let methods : List Method :=
      [.execute "newSession" (.object []), .execute "quit" (.object []), .execute "jump" .null]
    ∃ started last, driver.start seat = .ok () started ∧
      quit (started.useAll methods) = .error .connectionPoisoned last ∧
      last.calls = [driver.attachCall, driver.sessionCall,
        .execute (some "s") "newSession" "\x7b\x7d", .execute (some "s") "quit" "\x7b\x7d",
        .execute (some "s") "quit" "\x7b\x7d", .close] := by
  intro driver response service seat methods
  have haccepted : driver.Accepted seat.connection.service ⟨"s", by decide⟩ :=
    ⟨rfl, response "s", rfl, .inr rfl, rfl⟩
  have hstart := start_of_accepted rfl rfl haccepted
  obtain ⟨⟨text, htext⟩, answer, hanswer, hid, hlife⟩ :=
    started_until_quit driver service .setOnly 1 _ hstart
  obtain rfl : response "s" = answer := Except.ok.inj hanswer
  obtain rfl : "s" = text := Option.some.inj hid
  have hused : methods.flatMap (Method.calls ⟨"s", by decide⟩) =
      [.execute (some "s") "newSession" "\x7b\x7d", .execute (some "s") "quit" "\x7b\x7d"] := by
    decide +kernel
  obtain ⟨-, hcalls, -, ended, hquit, -, hended⟩ := hlife methods
  refine ⟨_, ended, hstart, hquit, ?_⟩
  rw [hended, hcalls, hused]
  rfl

end Driver

end BrowserBridge
