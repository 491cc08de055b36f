import BrowserBridge.Sidecar.Supervisor

/-!
What a keeper does in one step.  Whatever the machine is like, a start comes down to taking
the lock, waiting, one look at the port and, if nothing was found there, one launch, after
which it waits if it holds the lock, or is cut short if the clock ends before the deadline of
that wait; the other steps are single actions of the machine.  What a step comes to is kept as
an event, so that a run can be read off its events.
-/

namespace BrowserBridge.Supervisor

variable {τ : Type}

/-- The keeper on another state of its machine. -/
def withHost (supervisor : Supervisor τ) (host : τ) : Supervisor τ :=
  { supervisor with host := host }

@[simp] theorem host_remember (supervisor : Supervisor τ) (port : UInt16) (pid : Option UInt32) :
    (supervisor.remember port pid).host = supervisor.host := rfl

variable [Host τ]

/-- The wait of a start in nanoseconds: the one that was drawn, up to the longest one set. -/
def debounce (config : SidecarConfig) (wait : Nat) : Nat :=
  min wait (config.slowStart.millis.toNat * 1000000)

/-- Whether a start holds the lock of its port, and the machine after that. -/
def locking (supervisor : Supervisor τ) (port : UInt16) : Bool × τ :=
  match supervisor.config.lockPath port with
  | some path => Host.lock path supervisor.host
  | none => (false, supervisor.host)

/-- Whether a start that launches the service waits for it. -/
def waits (supervisor : Supervisor τ) (port : UInt16) : Bool :=
  (supervisor.locking port).1 && supervisor.config.startupTimeout.nanos ≠ 0

/-- Whether a start that launches the service asks for a deadline past the end of the clock. -/
def overruns (supervisor : Supervisor τ) (port : UInt16) (wait : Nat) : Bool :=
  supervisor.waits port && Host.clockEnd τ ≤ supervisor.clock + debounce supervisor.config wait +
    supervisor.config.startupTimeout.nanos

/-- The keeper of a start when it looks at the port. -/
def ready (supervisor : Supervisor τ) (port : UInt16) (wait : Nat) : Supervisor τ :=
  (supervisor.withHost (supervisor.locking port).2).pass (debounce supervisor.config wait)

/-- What is listed on a port, and the machine after that. -/
def listing (supervisor : Supervisor τ) (port : UInt16) :
    Except Fault (List ProcessInfo) × τ :=
  Host.list port supervisor.clock supervisor.host

/-- What looking at a port finds, and the machine after that. -/
def looking (supervisor : Supervisor τ) (port : UInt16) : Bool × τ :=
  listens supervisor.config.marker port supervisor.clock supervisor.host

/-- What a launch on a port comes to, and the machine after that. -/
def launching (supervisor : Supervisor τ) (port : UInt16) :
    Except Fault (Option UInt32) × τ :=
  Host.spawn supervisor.config.runtime (supervisor.config.launchArgs port) supervisor.clock
    supervisor.host

/-- The keeper once it has waited for the service to listen on a port. -/
def waited (supervisor : Supervisor τ) (port : UInt16) : Supervisor τ :=
  let found := awaitListener supervisor.config.marker port
    (supervisor.clock + supervisor.config.startupTimeout.nanos) supervisor.clock supervisor.host
  { supervisor with clock := found.1.2, host := found.2 }

theorem bind_apply {α β σ : Type} (first : StateM σ α) (next : α → StateM σ β) (state : σ) :
    (first >>= next) state = next (first state).1 (first state).2 := rfl

theorem get_apply {σ : Type} (state : σ) : (get : StateM σ σ) state = (state, state) := rfl

theorem takeLock_eq (supervisor : Supervisor τ) (port : UInt16) :
    takeLock port supervisor =
      ((supervisor.locking port).1, supervisor.withHost (supervisor.locking port).2) := by
  unfold locking
  change (match supervisor.config.lockPath port with
    | some path => onHost fun _ => Host.lock path
    | none => pure false : StateM (Supervisor τ) Bool) supervisor = _
  cases supervisor.config.lockPath port <;> rfl

/-- A look at a port is one listing of it. -/
theorem listens_eq (marker : String) (port : UInt16) (now : Nat) (host : τ) :
    listens marker port now host =
      (match (Host.list port now host).1 with
        | .ok processes => processes.any (·.hasMarker marker)
        | .error _ => false, (Host.list port now host).2) := by
  rw [listens, bind_apply]
  cases (Host.list port now host).1 <;> rfl

theorem spawn_eq (supervisor : Supervisor τ) (port : UInt16) :
    onHost (Host.spawn supervisor.config.runtime (supervisor.config.launchArgs port)) supervisor =
      ((supervisor.launching port).1, supervisor.withHost (supervisor.launching port).2) := rfl

/-- What a start does that does not find the service running. -/
def launch (locked : Bool) (port : UInt16) :
    StateM (Supervisor τ) (Except Abort StartOutcome) := do
  let config := (← get).config
  match ← onHost (Host.spawn config.runtime (config.launchArgs port)) with
  | .error _ => return .ok .failed
  | .ok pid =>
    modify fun supervisor => supervisor.remember port pid
    if locked && config.startupTimeout.nanos ≠ 0 then
      return (← waitStarted port).map fun () => .launched pid
    else return .ok (.launched pid)

theorem launch_of_error {supervisor : Supervisor τ} {port : UInt16} {fault : Fault}
    (locked : Bool) (h : (supervisor.launching port).1 = .error fault) :
    launch locked port supervisor =
      (.ok .failed, supervisor.withHost (supervisor.launching port).2) := by
  rw [launch, bind_apply, get_apply, bind_apply, spawn_eq, h]
  rfl

/-- Waiting begins with the deadline, which the clock may not reach. -/
theorem waitStarted_eq (supervisor : Supervisor τ) (port : UInt16) :
    waitStarted port supervisor =
      if Host.clockEnd τ ≤ supervisor.clock + supervisor.config.startupTimeout.nanos then
        (.error .pastClock, supervisor)
      else (.ok (), supervisor.waited port) := by
  by_cases hends : Host.clockEnd τ ≤ supervisor.clock + supervisor.config.startupTimeout.nanos
  · rw [if_pos hends]
    exact congrFun (if_pos hends) supervisor
  · rw [if_neg hends]
    exact congrFun (if_neg hends) supervisor

theorem launch_of_ok {supervisor : Supervisor τ} {port : UInt16} {pid : Option UInt32}
    (locked : Bool) (h : (supervisor.launching port).1 = .ok pid) :
    let launched :=
      (supervisor.withHost (supervisor.launching port).2).remember port pid
    launch locked port supervisor =
      if locked && supervisor.config.startupTimeout.nanos ≠ 0 then
        if Host.clockEnd τ ≤ supervisor.clock + supervisor.config.startupTimeout.nanos then
          (.error .pastClock, launched)
        else (.ok (.launched pid), launched.waited port)
      else (.ok (.launched pid), launched) := by
  intro launched
  rw [launch, bind_apply, get_apply, bind_apply, spawn_eq, h]
  change (if locked && supervisor.config.startupTimeout.nanos ≠ 0 then
      waitStarted port >>= fun result => pure (result.map fun () => .launched pid)
    else pure (.ok (.launched pid)) :
      StateM (Supervisor τ) (Except Abort StartOutcome)) launched = _
  by_cases hwaits : (locked && supervisor.config.startupTimeout.nanos ≠ 0) = true
  · rw [if_pos hwaits, if_pos hwaits, bind_apply, waitStarted_eq]
    by_cases hends : Host.clockEnd τ ≤ launched.clock + launched.config.startupTimeout.nanos
    · rw [if_pos hends]
      exact (if_pos hends).symm
    · rw [if_neg hends]
      exact (if_neg hends).symm
  · rw [if_neg hwaits, if_neg hwaits]
    rfl

/-- A start looks at the port once, and it launches the service if that does not find it. -/
theorem start_eq (supervisor : Supervisor τ) (port : UInt16) (wait : Nat) :
    let ready := supervisor.ready port wait
    let looked := ready.withHost (ready.looking port).2
    start port wait supervisor =
      if (ready.looking port).1 then (.ok .alreadyRunning, looked)
      else launch (supervisor.locking port).1 port looked := by
  intro ready looked
  unfold start
  simp only [bind_apply, takeLock_eq]
  by_cases hlooked : (ready.looking port).1 = true
  · rw [if_pos hlooked]
    exact congrFun (if_pos hlooked) looked
  · rw [if_neg hlooked]
    exact congrFun (if_neg hlooked) looked

/-- The keeper of a start that has looked at the port. -/
def looked (supervisor : Supervisor τ) (port : UInt16) (wait : Nat) : Supervisor τ :=
  (supervisor.ready port wait).withHost ((supervisor.ready port wait).looking port).2

/-- The keeper of a start that has tried to launch the service. -/
def tried (supervisor : Supervisor τ) (port : UInt16) (wait : Nat) : Supervisor τ :=
  (supervisor.looked port wait).withHost ((supervisor.looked port wait).launching port).2

/-- The keeper once a start has launched the service and waited as long as it does. -/
def settled (supervisor : Supervisor τ) (port : UInt16) (wait : Nat) (pid : Option UInt32) :
    Supervisor τ :=
  let launched := (supervisor.tried port wait).remember port pid
  if supervisor.waits port && !supervisor.overruns port wait then launched.waited port
  else launched

theorem overruns_iff {supervisor : Supervisor τ} {port : UInt16} {wait : Nat} :
    supervisor.overruns port wait = true ↔ supervisor.waits port = true ∧
      Host.clockEnd τ ≤ supervisor.clock + debounce supervisor.config wait +
        supervisor.config.startupTimeout.nanos := by
  simp [overruns]

/-- The three ways of a start.  The last one may be cut short. -/
theorem start_cases (supervisor : Supervisor τ) (port : UInt16) (wait : Nat) :
    (((supervisor.ready port wait).looking port).1 = true ∧
        start port wait supervisor = (.ok .alreadyRunning, supervisor.looked port wait)) ∨
      ((supervisor.ready port wait).looking port).1 = false ∧
        ((∃ fault, ((supervisor.looked port wait).launching port).1 = .error fault ∧
            start port wait supervisor = (.ok .failed, supervisor.tried port wait)) ∨
          ∃ pid, ((supervisor.looked port wait).launching port).1 = .ok pid ∧
            start port wait supervisor =
              (if supervisor.overruns port wait then .error .pastClock else .ok (.launched pid),
                supervisor.settled port wait pid)) := by
  have hstart := start_eq supervisor port wait
  cases hlooked : ((supervisor.ready port wait).looking port).1 with
  | true => exact .inl ⟨rfl, hstart.trans (if_pos hlooked)⟩
  | false =>
      replace hstart := hstart.trans (if_neg (ne_true_of_eq_false hlooked))
      refine .inr ⟨rfl, ?_⟩
      cases hlaunch : ((supervisor.looked port wait).launching port).1 with
      | error fault => exact .inl ⟨fault, rfl, hstart.trans (launch_of_error _ hlaunch)⟩
      | ok pid =>
          refine .inr ⟨pid, rfl, (hstart.trans (launch_of_ok _ hlaunch)).trans ?_⟩
          rw [settled]
          by_cases hover : supervisor.overruns port wait = true
          · obtain ⟨hwaits, hends⟩ := overruns_iff.mp hover
            rw [hover, hwaits]
            exact (if_pos hwaits).trans (if_pos hends)
          · rw [eq_false_of_ne_true hover]
            by_cases hwaits : supervisor.waits port = true
            · rw [hwaits]
              exact (if_pos hwaits).trans (if_neg fun hends =>
                hover (overruns_iff.mpr ⟨hwaits, hends⟩))
            · rw [eq_false_of_ne_true hwaits]
              exact if_neg hwaits

/-- A start does not return only if its deadline is past the end of the clock. -/
theorem overruns_of_start_error {supervisor : Supervisor τ} {port : UInt16} {wait : Nat}
    {abort : Abort} (h : (start port wait supervisor).1 = .error abort) :
    supervisor.overruns port wait = true := by
  rcases supervisor.start_cases port wait with
    ⟨-, hstart⟩ | ⟨-, ⟨fault, -, hstart⟩ | ⟨pid, -, hstart⟩⟩
  · rw [hstart] at h
    cases h
  · rw [hstart] at h
    cases h
  · cases hover : supervisor.overruns port wait with
    | true => rfl
    | false =>
        rw [hstart, hover] at h
        cases h

/-- Ending processes changes the machine only. -/
theorem terminateAll_keeps (pids : List UInt32) (supervisor : Supervisor τ) :
    ∃ host, (terminateAll pids supervisor).2 = supervisor.withHost host := by
  induction pids generalizing supervisor with
  | nil => exact ⟨supervisor.host, rfl⟩
  | cons pid rest ih =>
      obtain ⟨host, hrest⟩ :=
        ih (supervisor.withHost (Host.terminate pid supervisor.clock supervisor.host).2)
      exact ⟨host, hrest⟩

theorem stop_of_error {supervisor : Supervisor τ} {port : UInt16} {fault : Fault}
    (h : (supervisor.listing port).1 = .error fault) :
    stop port supervisor = (0, supervisor.withHost (supervisor.listing port).2) := by
  have hlist : onHost (Host.list port) supervisor =
      ((supervisor.listing port).1, supervisor.withHost (supervisor.listing port).2) := rfl
  rw [stop, bind_apply, hlist, h]
  rfl

/-- The processes with the marker among those listed. -/
def marked (supervisor : Supervisor τ) (processes : List ProcessInfo) : List UInt32 :=
  (processes.filter (·.hasMarker supervisor.config.marker)).map (·.pid)

theorem stop_of_ok {supervisor : Supervisor τ} {port : UInt16} {processes : List ProcessInfo}
    (h : (supervisor.listing port).1 = .ok processes) :
    let ended := terminateAll (supervisor.marked processes)
      (supervisor.withHost (supervisor.listing port).2)
    stop port supervisor = (ended.1, ended.2.forget port) := by
  have hlist : onHost (Host.list port) supervisor =
      ((supervisor.listing port).1, supervisor.withHost (supervisor.listing port).2) := rfl
  intro ended
  rw [stop, bind_apply, hlist, h]
  rfl

/-- What is done with a keeper. -/
inductive Step where
  | start (port : UInt16) (wait : Nat)
  | stop (port : UInt16)
  | isRunning (port : UInt16)
  /-- Nothing for some time. -/
  | pass (nanos : Nat)
  deriving DecidableEq

/-- What comes of a step. -/
inductive Event where
  | started (port : UInt16) (outcome : StartOutcome)
  /-- A start that has launched the service and does not return. -/
  | cutShort (port : UInt16) (pid : Option UInt32)
  /-- `known` says whether the processes on the port could be found out. -/
  | stopped (port : UInt16) (known : Bool) (count : Nat)
  | looked (port : UInt16) (running : Bool)
  | passed
  deriving DecidableEq

/-- The port that a step is about. -/
def Step.port? : Step → Option UInt16
  | start port _ => some port
  | stop port => some port
  | isRunning port => some port
  | pass _ => none

/-- The port that an event is about. -/
def Event.port? : Event → Option UInt16
  | started port _ => some port
  | cutShort port _ => some port
  | stopped port _ _ => some port
  | looked port _ => some port
  | passed => none

/-- The keeper after a step. -/
def next (supervisor : Supervisor τ) : Step → Supervisor τ
  | .start port wait => (start port wait supervisor).2
  | .stop port => (stop port supervisor).2
  | .isRunning port => (isRunning port supervisor).2
  | .pass nanos => supervisor.pass nanos

/-- What comes of a step that is done next. -/
def event (supervisor : Supervisor τ) : Step → Event
  | .start port wait =>
    match (start port wait supervisor).1 with
    | .ok outcome => .started port outcome
    | .error _ => .cutShort port ((supervisor.looked port wait).launching port).1.toOption.join
  | .stop port => .stopped port (supervisor.listing port).1.isOk (stop port supervisor).1
  | .isRunning port => .looked port (isRunning port supervisor).1
  | .pass _ => .passed

theorem port?_event (supervisor : Supervisor τ) (step : Step) :
    (supervisor.event step).port? = step.port? := by
  cases step with
  | start port wait =>
      rw [event]
      cases (start port wait supervisor).1 <;> rfl
  | _ => rfl

/-- What comes of a start that launches the service. -/
theorem event_of_launching {supervisor : Supervisor τ} {port : UInt16} {wait : Nat}
    {pid : Option UInt32} (hlooking : ((supervisor.ready port wait).looking port).1 = false)
    (hlaunch : ((supervisor.looked port wait).launching port).1 = .ok pid) :
    supervisor.event (.start port wait) =
      if supervisor.overruns port wait then .cutShort port pid
      else .started port (.launched pid) := by
  rcases supervisor.start_cases port wait with
    ⟨hfound, -⟩ | ⟨-, ⟨fault, hfault, -⟩ | ⟨other, hother, hstart⟩⟩
  · cases hlooking.symm.trans hfound
  · cases hlaunch.symm.trans hfault
  · cases hlaunch.symm.trans hother
    rw [event, hstart, hlaunch]
    cases supervisor.overruns port wait <;> rfl

/-- Whether an event is that of a start that does not return. -/
def Event.isCut : Event → Bool
  | cutShort _ _ => true
  | _ => false

theorem isCut_event_start (supervisor : Supervisor τ) (port : UInt16) (wait : Nat) :
    (supervisor.event (.start port wait)).isCut = false ↔
      ∃ outcome, (start port wait supervisor).1 = .ok outcome := by
  rw [event]
  cases (start port wait supervisor).1 with
  | ok outcome => exact iff_of_true rfl ⟨outcome, rfl⟩
  | error abort =>
      exact iff_of_false (fun hcut => nomatch hcut) (fun ⟨_, hreturns⟩ => nomatch hreturns)

/-- The keeper after steps in order. -/
def after (supervisor : Supervisor τ) (steps : List Step) : Supervisor τ :=
  steps.foldl next supervisor

/-- What comes of steps in order. -/
def events (supervisor : Supervisor τ) : List Step → List Event
  | [] => []
  | step :: rest => supervisor.event step :: (supervisor.next step).events rest

/-- Every step of a run returns. -/
def Returns (supervisor : Supervisor τ) (steps : List Step) : Prop :=
  ∀ event ∈ supervisor.events steps, event.isCut = false

@[simp] theorem after_nil (supervisor : Supervisor τ) : supervisor.after [] = supervisor := rfl

@[simp] theorem after_cons (supervisor : Supervisor τ) (step : Step) (rest : List Step) :
    supervisor.after (step :: rest) = (supervisor.next step).after rest := rfl

theorem after_append (supervisor : Supervisor τ) (first second : List Step) :
    supervisor.after (first ++ second) = (supervisor.after first).after second :=
  List.foldl_append ..

theorem events_append (supervisor : Supervisor τ) (first second : List Step) :
    supervisor.events (first ++ second) =
      supervisor.events first ++ (supervisor.after first).events second := by
  induction first generalizing supervisor with
  | nil => rfl
  | cons step rest ih => exact congrArg (supervisor.event step :: ·) (ih (supervisor.next step))

theorem returns_cons_iff {supervisor : Supervisor τ} {step : Step} {rest : List Step} :
    supervisor.Returns (step :: rest) ↔
      (supervisor.event step).isCut = false ∧ (supervisor.next step).Returns rest :=
  List.forall_mem_cons

theorem returns_append_iff {supervisor : Supervisor τ} {first second : List Step} :
    supervisor.Returns (first ++ second) ↔
      supervisor.Returns first ∧ (supervisor.after first).Returns second := by
  rw [Returns, events_append]
  exact List.forall_mem_append

end BrowserBridge.Supervisor
