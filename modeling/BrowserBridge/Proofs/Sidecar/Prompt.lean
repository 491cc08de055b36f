import BrowserBridge.Proofs.Sidecar.Clock
import BrowserBridge.Sidecar.Table

/-!
Locked starts on a machine whose services listen in time.  A start that launches the service
keeps the lock until it is listed or its time is over, and by then it is listed in any case.
So every start of a port finds the service of the first one, and the service is launched once
at most.  That rests on the starts returning, which they do while the clock holds their waits.
-/

namespace BrowserBridge

/-- A process with the marker is listed on the port at that time. -/
def Listed (marker : String) (port : UInt16) (now : Nat) (entries : List TableEntry) : Prop :=
  ∃ entry ∈ entries, entry.port = port ∧ entry.visibleFrom ≤ now ∧
    entry.process.hasMarker marker = true

theorem Listed.mono {marker : String} {port : UInt16} {now later : Nat}
    {entries more : List TableEntry} (h : Listed marker port now entries) (hnow : now ≤ later)
    (hentries : entries ⊆ more) : Listed marker port later more := by
  obtain ⟨entry, hentry, hport, hvisible, hmarker⟩ := h
  exact ⟨entry, hentries hentry, hport, Nat.le_trans hvisible hnow, hmarker⟩

/-- A machine is in sound condition after an action, and its processes are the ones before. -/
structure Host.Rests {τ : Type} (sound : τ → Prop) (entries : τ → List TableEntry)
    (before after : τ) : Prop where
  sound : sound after
  entries_eq : entries after = entries before

theorem Host.Rests.trans {τ : Type} {sound : τ → Prop} {entries : τ → List TableEntry}
    {first second third : τ} (h : Rests sound entries first second)
    (hthird : Rests sound entries second third) : Rests sound entries first third :=
  ⟨hthird.sound, hthird.entries_eq.trans h.entries_eq⟩

/-- On a machine in sound condition looking, locking and launching succeed, and so they do
later.  A look finds the processes that are listed at that time, and only a launch adds one:
on its port, under the runtime's name, and listed no later than the startup timeout ends. -/
structure Host.Prompt {τ : Type} [Host τ] (config : SidecarConfig) (sound : τ → Prop)
    (entries : τ → List TableEntry) : Prop where
  list {host : τ} (hsound : sound host) (port : UInt16) (now : Nat) :
    ∃ processes, (Host.list port now host).1 = .ok processes ∧
      ∀ process, process ∈ processes ↔ ∃ entry ∈ entries host,
        entry.port = port ∧ entry.visibleFrom ≤ now ∧ entry.process = process
  rests_list {host : τ} (hsound : sound host) (port : UInt16) (now : Nat) :
    Rests sound entries host (Host.list port now host).2
  lock {host : τ} (hsound : sound host) (path : String) : (Host.lock path host).1 = true
  rests_lock {host : τ} (hsound : sound host) (path : String) :
    Rests sound entries host (Host.lock path host).2
  spawn {host : τ} (hsound : sound host) (port : UInt16) (now : Nat) :
    ∃ pid, (Host.spawn config.runtime (config.launchArgs port) now host).1 = .ok pid
  sound_spawn {host : τ} (hsound : sound host) (port : UInt16) (now : Nat) :
    sound (Host.spawn config.runtime (config.launchArgs port) now host).2
  entries_spawn {host : τ} (hsound : sound host) (port : UInt16) (now : Nat) :
    ∃ entry, entries (Host.spawn config.runtime (config.launchArgs port) now host).2 =
        entries host ++ [entry] ∧
      entry.port = port ∧ entry.process.name = config.runtime ∧
      entry.visibleFrom ≤ now + config.startupTimeout.nanos

namespace ProcessTable

/-- Everything succeeds on a table, and its processes listen within a span of time. -/
structure Steady (timeout : Nat) (table : ProcessTable) : Prop where
  query : table.queryFails = false
  spawn : table.spawnFails = false
  lock : table.lockable = true
  delay : ∃ delay ≤ timeout, table.listenDelay = some delay

/-- A launch names its port last. -/
theorem portOf_launchArgs (config : SidecarConfig) (port : UInt16) :
    portOf (config.launchArgs port) = port := by
  have hlast : (config.launchArgs port).getLast? = some (toString port.toNat) := by
    simp [SidecarConfig.launchArgs]
  rw [portOf, hlast, Option.bind_some, Text.natBelow?_toString port.toNat_lt, Option.getD_some,
    UInt16.ofNat_toNat]

theorem launch_of_delay {table : ProcessTable} {delay : Nat} (h : table.listenDelay = some delay)
    (program : String) (args : List String) (now : Nat) :
    table.launch program args now = { table with nextPid := table.nextPid + 1 }.add
      (portOf args) ⟨table.nextPid, program⟩ (now + delay) := by
  cases table
  cases h
  rfl

theorem spawn_steady {timeout : Nat} {table : ProcessTable} (hsteady : table.Steady timeout)
    (program : String) (args : List String) (now : Nat) :
    ∃ delay ≤ timeout, Host.spawn program args now table =
      (.ok (some table.nextPid),
        { table.note now (.spawn program args) with nextPid := table.nextPid + 1 }.add
          (portOf args) ⟨table.nextPid, program⟩ (now + delay)) := by
  obtain ⟨delay, hdelay, hlisten⟩ := hsteady.delay
  have hnoted : (table.note now (.spawn program args)).listenDelay = some delay := hlisten
  refine ⟨delay, hdelay, ?_⟩
  rw [spawn_eq, hsteady.spawn, launch_of_delay hnoted]
  rfl

/-- A table in this condition is a machine as it is asked for. -/
theorem prompt_steady (config : SidecarConfig) :
    Host.Prompt config (Steady config.startupTimeout.nanos) ProcessTable.entries where
  list {table} hsteady port now := by
    refine ⟨table.visible port now, ?_, fun process => by simp [visible, and_assoc]⟩
    change (if table.queryFails = true then _ else Except.ok (table.visible port now)) = _
    rw [hsteady.query]
    rfl
  rests_list hsteady port now :=
    ⟨⟨hsteady.query, hsteady.spawn, hsteady.lock, hsteady.delay⟩, rfl⟩
  lock hsteady path := by rw [lock_eq, if_pos hsteady.lock]
  rests_lock hsteady path := by
    rw [lock_eq, if_pos hsteady.lock]
    exact ⟨⟨hsteady.query, hsteady.spawn, hsteady.lock, hsteady.delay⟩, rfl⟩
  spawn hsteady port now := by
    obtain ⟨delay, -, hspawn⟩ := spawn_steady hsteady config.runtime (config.launchArgs port) now
    rw [hspawn]
    exact ⟨_, rfl⟩
  sound_spawn hsteady port now := by
    obtain ⟨delay, -, hspawn⟩ := spawn_steady hsteady config.runtime (config.launchArgs port) now
    rw [hspawn]
    exact ⟨hsteady.query, hsteady.spawn, hsteady.lock, hsteady.delay⟩
  entries_spawn hsteady port now := by
    obtain ⟨delay, hdelay, hspawn⟩ :=
      spawn_steady hsteady config.runtime (config.launchArgs port) now
    rw [hspawn]
    exact ⟨_, rfl, portOf_launchArgs config port, rfl, Nat.add_le_add_left hdelay now⟩

end ProcessTable

namespace Supervisor

/-- Whether an event is a launch on a port. -/
def Event.isLaunch (port : UInt16) : Event → Bool
  | .started other (.launched _) => other == port
  | .cutShort other _ => other == port
  | _ => false

theorem eq_start_of_isLaunch {τ : Type} [Host τ] {keeper : Supervisor τ} {step : Step}
    {port : UInt16} (h : (keeper.event step).isLaunch port = true) :
    ∃ wait, step = .start port wait ∧ (start port wait keeper).1 ≠ .ok .alreadyRunning := by
  cases step with
  | start other wait =>
      rw [event] at h
      cases hstart : (start other wait keeper).1 with
      | error abort =>
          rw [hstart] at h
          obtain rfl := eq_of_beq h
          exact ⟨wait, rfl, fun hrunning => by cases hstart.symm.trans hrunning⟩
      | ok outcome =>
          rw [hstart] at h
          cases outcome with
          | launched pid =>
              obtain rfl := eq_of_beq h
              exact ⟨wait, rfl, fun hrunning => by cases hstart.symm.trans hrunning⟩
          | alreadyRunning => cases h
          | failed => cases h
  | _ => cases h

variable {τ : Type} [Host τ] {config : SidecarConfig} {sound : τ → Prop}
  {entries : τ → List TableEntry} (hprompt : Host.Prompt config sound entries)

include hprompt

theorem listens_iff {host : τ} (hsound : sound host) (marker : String) (port : UInt16)
    (now : Nat) :
    (listens marker port now host).1 = true ↔ Listed marker port now (entries host) := by
  obtain ⟨processes, hlist, hmem⟩ := hprompt.list hsound port now
  rw [listens_eq, hlist]
  simp only [List.any_eq_true, hmem]
  constructor
  · rintro ⟨process, ⟨entry, hentry, hport, hvisible, rfl⟩, hmarker⟩
    exact ⟨entry, hentry, hport, hvisible, hmarker⟩
  · rintro ⟨entry, hentry, hport, hvisible, hmarker⟩
    exact ⟨entry.process, ⟨entry, hentry, hport, hvisible, rfl⟩, hmarker⟩

theorem rests_listens {host : τ} (hsound : sound host) (marker : String) (port : UInt16)
    (now : Nat) : Host.Rests sound entries host (listens marker port now host).2 := by
  rw [listens_eq]
  exact hprompt.rests_list hsound port now

theorem isRunning_of_listed {keeper : Supervisor τ} (hconfig : keeper.config = config)
    (hsound : sound keeper.host) {port : UInt16}
    (hlisted : Listed config.marker port keeper.clock (entries keeper.host)) :
    (isRunning port keeper).1 = true := by
  subst hconfig
  exact (listens_iff hprompt hsound _ _ _).mpr hlisted

/-- Waiting ends when the service is listed or when the deadline is reached, and not before. -/
theorem awaitListener_ends (marker : String) (port : UInt16) (deadline now : Nat) {host : τ}
    (hsound : sound host) :
    let found := awaitListener marker port deadline now host
    Host.Rests sound entries host found.2 ∧ now ≤ found.1.2 ∧
      (Listed marker port found.1.2 (entries host) ∨ deadline ≤ found.1.2) := by
  fun_induction awaitListener marker port deadline now host with
  | case1 now host last hlistens =>
      have hlisted := (listens_iff hprompt hsound marker port now).mp (by rw [hlistens])
      have hlast := rests_listens hprompt hsound marker port now
      rw [hlistens] at hlast
      exact ⟨hlast, Nat.le_refl now, .inl hlisted⟩
  | case2 now host last hlistens hover =>
      have hlast := rests_listens hprompt hsound marker port now
      rw [hlistens] at hlast
      exact ⟨hlast, Nat.le_refl now, .inr hover⟩
  | case3 now host last hlistens hover ih =>
      have hlast := rests_listens hprompt hsound marker port now
      rw [hlistens] at hlast
      obtain ⟨hrests, hlater, hends⟩ := ih hlast.sound
      rw [hlast.entries_eq] at hends
      exact ⟨hlast.trans hrests, Nat.le_trans (Nat.le_add_right _ _) hlater, hends⟩

omit hprompt in
@[simp] theorem clock_looked (keeper : Supervisor τ) (port : UInt16) (wait : Nat) :
    (keeper.looked port wait).clock = keeper.clock + debounce keeper.config wait := rfl

variable (hlockDir : config.lockDir.isSome = true)

include hlockDir

theorem locking_prompt {keeper : Supervisor τ} (hconfig : keeper.config = config)
    (hsound : sound keeper.host) (port : UInt16) :
    (keeper.locking port).1 = true ∧
      Host.Rests sound entries keeper.host (keeper.locking port).2 := by
  obtain ⟨dir, hdir⟩ := Option.isSome_iff_exists.mp hlockDir
  have hpath : keeper.config.lockPath port =
      some (FilePath.join dir (SidecarConfig.lockName port)) := by
    rw [hconfig, SidecarConfig.lockPath, hdir]
    rfl
  rw [locking, hpath]
  exact ⟨hprompt.lock hsound _, hprompt.rests_lock hsound _⟩

/-- A start looks for what is listed once its wait is over. -/
theorem looking_ready_iff {keeper : Supervisor τ} (hconfig : keeper.config = config)
    (hsound : sound keeper.host) (port : UInt16) (wait : Nat) :
    ((keeper.ready port wait).looking port).1 = true ↔
      Listed config.marker port (keeper.clock + debounce config wait) (entries keeper.host) := by
  obtain ⟨-, hlocked⟩ := locking_prompt hprompt hlockDir hconfig hsound port
  rw [← hlocked.entries_eq, ← hconfig]
  exact listens_iff hprompt hlocked.sound _ _ _

theorem rests_looked {keeper : Supervisor τ} (hconfig : keeper.config = config)
    (hsound : sound keeper.host) (port : UInt16) (wait : Nat) :
    Host.Rests sound entries keeper.host (keeper.looked port wait).host := by
  obtain ⟨-, hlocked⟩ := locking_prompt hprompt hlockDir hconfig hsound port
  exact hlocked.trans (rests_listens hprompt hlocked.sound _ _ _)

/-- A launch succeeds and adds a process to the machine. -/
theorem launching_prompt {keeper : Supervisor τ} (hconfig : keeper.config = config)
    (hsound : sound keeper.host) (port : UInt16) (wait : Nat) :
    let tried := keeper.tried port wait
    (∃ pid, ((keeper.looked port wait).launching port).1 = .ok pid) ∧ sound tried.host ∧
      ∃ entry, entries tried.host = entries keeper.host ++ [entry] ∧ entry.port = port ∧
        entry.process.name = config.runtime ∧
        entry.visibleFrom ≤ tried.clock + config.startupTimeout.nanos := by
  have hlooked := rests_looked hprompt hlockDir hconfig hsound port wait
  subst hconfig
  rw [← hlooked.entries_eq]
  exact ⟨hprompt.spawn hlooked.sound port _, hprompt.sound_spawn hlooked.sound port _,
    hprompt.entries_spawn hlooked.sound port _⟩

/-- A keeper with these settings on a machine in sound condition, later than another keeper: no
process is gone since and the clock was not turned back. -/
structure Follows (config : SidecarConfig) (sound : τ → Prop) (entries : τ → List TableEntry)
    (earlier later : Supervisor τ) : Prop where
  config_eq : later.config = config
  sound : sound later.host
  clock_le : earlier.clock ≤ later.clock
  entries_subset : entries earlier.host ⊆ entries later.host

omit [Host τ] hprompt hlockDir in
theorem Follows.of_rests {earlier later : Supervisor τ} (hconfig : later.config = config)
    (hclock : earlier.clock ≤ later.clock)
    (h : Host.Rests sound entries earlier.host later.host) :
    Follows config sound entries earlier later :=
  ⟨hconfig, h.sound, hclock, h.entries_eq ▸ List.Subset.refl _⟩

omit [Host τ] hprompt hlockDir in
theorem Follows.trans {first second third : Supervisor τ}
    (h : Follows config sound entries first second)
    (hthird : Follows config sound entries second third) :
    Follows config sound entries first third where
  config_eq := hthird.config_eq
  sound := hthird.sound
  clock_le := Nat.le_trans h.clock_le hthird.clock_le
  entries_subset := List.Subset.trans h.entries_subset hthird.entries_subset

omit [Host τ] hprompt hlockDir in
theorem Follows.listed {earlier later : Supervisor τ} {port : UInt16}
    (h : Follows config sound entries earlier later)
    (hlisted : Listed config.marker port earlier.clock (entries earlier.host)) :
    Listed config.marker port later.clock (entries later.host) :=
  hlisted.mono h.clock_le h.entries_subset

omit hlockDir in
/-- A keeper that waits for a process of its own until that is listed or the startup timeout
is over leaves off when it is listed. -/
theorem waited_prompt {keeper : Supervisor τ} (hconfig : keeper.config = config)
    (hsound : sound keeper.host) {port : UInt16} {entry : TableEntry}
    (hentry : entry ∈ entries keeper.host) (hport : entry.port = port)
    (hmarker : entry.process.hasMarker config.marker = true)
    (hvisible : entry.visibleFrom ≤ keeper.clock + config.startupTimeout.nanos) :
    let last := keeper.waited port
    Host.Rests sound entries keeper.host last.host ∧ keeper.clock ≤ last.clock ∧
      Listed config.marker port last.clock (entries keeper.host) := by
  subst hconfig
  obtain ⟨hrests, hclock, hends⟩ := awaitListener_ends hprompt keeper.config.marker port
    (keeper.clock + keeper.config.startupTimeout.nanos) keeper.clock hsound
  refine ⟨hrests, hclock, ?_⟩
  rcases hends with hlisted | hover
  · exact hlisted
  · exact ⟨entry, hentry, hport, Nat.le_trans hvisible hover, hmarker⟩

variable (hmarker : ∀ process : ProcessInfo, process.name = config.runtime →
  process.hasMarker config.marker = true)

include hmarker

/-- A start that launches the service and returns is over when the service is listed. -/
theorem settled_prompt {keeper : Supervisor τ} (hconfig : keeper.config = config)
    (hsound : sound keeper.host) (port : UInt16) (wait : Nat) (pid : Option UInt32) :
    let last := keeper.settled port wait pid
    Follows config sound entries keeper last ∧
      (keeper.overruns port wait = false →
        Listed config.marker port last.clock (entries last.host)) ∧
      ∃ entry, entries last.host = entries keeper.host ++ [entry] ∧ entry.port = port := by
  intro last
  let launched := (keeper.tried port wait).remember port pid
  obtain ⟨-, hlaunched, entry, hadded, hport, hname, hvisible⟩ :=
    launching_prompt hprompt hlockDir hconfig hsound port wait
  have hconfigLaunched : launched.config = config := hconfig
  have hmarked := hmarker entry.process hname
  have hentry : entry ∈ entries launched.host := by
    rw [host_remember, hadded]
    exact List.mem_append_right _ (List.mem_singleton_self entry)
  have hfollows : Follows config sound entries keeper launched := by
    refine ⟨hconfig, hlaunched, Nat.le_add_right _ _, ?_⟩
    rw [host_remember, hadded]
    exact List.subset_append_left _ _
  have hlocked := (locking_prompt hprompt hlockDir hconfig hsound port).1
  by_cases hwaits : (keeper.waits port && !keeper.overruns port wait) = true
  · have hlast : last = launched.waited port := if_pos hwaits
    obtain ⟨hrests, hlater, hlisted⟩ :=
      waited_prompt hprompt hconfigLaunched hlaunched hentry hport hmarked hvisible
    rw [hlast, hrests.entries_eq]
    exact ⟨hfollows.trans (.of_rests hconfig hlater hrests), fun _ => hlisted, entry, hadded, hport⟩
  · have hlast : last = launched := if_neg hwaits
    rw [hlast]
    refine ⟨hfollows, fun hfits => ?_, entry, hadded, hport⟩
    -- with no time to wait the process is listed at once
    have htimeout : config.startupTimeout.nanos = 0 := by
      simpa [waits, hlocked, hconfig, hfits] using hwaits
    rw [htimeout] at hvisible
    exact ⟨entry, hentry, hport, hvisible, hmarked⟩

/-- What a start comes to: it launches the service unless that is listed, and in either case
the service is listed when the start returns. -/
theorem start_prompt {keeper : Supervisor τ} (hconfig : keeper.config = config)
    (hsound : sound keeper.host) (port : UInt16) (wait : Nat) :
    let last := keeper.next (.start port wait)
    let found := Listed config.marker port (keeper.clock + debounce config wait)
      (entries keeper.host)
    Follows config sound entries keeper last ∧
      ((keeper.event (.start port wait)).isCut = false →
        Listed config.marker port last.clock (entries last.host)) ∧
      (found → (start port wait keeper).1 = .ok .alreadyRunning ∧
        entries last.host = entries keeper.host) ∧
      (¬ found → ∃ pid entry, (start port wait keeper).1 =
          (if keeper.overruns port wait then .error .pastClock else .ok (.launched pid)) ∧
        entries last.host = entries keeper.host ++ [entry] ∧ entry.port = port) := by
  intro last found
  have hfound := looking_ready_iff hprompt hlockDir hconfig hsound port wait
  rcases keeper.start_cases port wait with
    ⟨hlooking, hstart⟩ | ⟨hlooking, ⟨fault, hfault, -⟩ | ⟨pid, hlaunch, hstart⟩⟩
  · have hlast : last = keeper.looked port wait := congrArg Prod.snd hstart
    have hlooked := rests_looked hprompt hlockDir hconfig hsound port wait
    have hclock : (keeper.looked port wait).clock = keeper.clock + debounce config wait := by
      rw [clock_looked, hconfig]
    have hlisted : found := hfound.mp hlooking
    rw [hlast, hstart, hlooked.entries_eq, hclock]
    exact ⟨.of_rests hconfig (Nat.le_add_right _ _) hlooked, fun _ => hlisted,
      fun _ => ⟨rfl, rfl⟩, fun h => absurd hlisted h⟩
  · obtain ⟨⟨pid, hpid⟩, -⟩ := launching_prompt hprompt hlockDir hconfig hsound port wait
    rw [hpid] at hfault
    cases hfault
  · have hlast : last = keeper.settled port wait pid := congrArg Prod.snd hstart
    have hevent := event_of_launching hlooking hlaunch
    obtain ⟨hfollows, hlisted, entry, hadded, hport⟩ :=
      settled_prompt hprompt hlockDir hmarker hconfig hsound port wait pid
    rw [hlast, hstart, hevent]
    refine ⟨hfollows, fun hreturns => hlisted ?_, fun h => ?_,
      fun _ => ⟨pid, entry, rfl, hadded, hport⟩⟩
    · refine eq_false_of_ne_true fun hover => ?_
      rw [if_pos hover] at hreturns
      cases hreturns
    · rw [hfound.mpr h] at hlooking
      cases hlooking

/-- One step that is no stop. -/
theorem follows_next {keeper : Supervisor τ} (hconfig : keeper.config = config)
    (hsound : sound keeper.host) {step : Step} (hstep : ∀ port, step ≠ .stop port) :
    Follows config sound entries keeper (keeper.next step) := by
  cases step with
  | start port wait => exact (start_prompt hprompt hlockDir hmarker hconfig hsound port wait).1
  | stop port => exact absurd rfl (hstep port)
  | isRunning port =>
      exact .of_rests hconfig (Nat.le_refl _) (rests_listens hprompt hsound _ _ _)
  | pass nanos => exact ⟨hconfig, hsound, Nat.le_add_right _ _, List.Subset.refl _⟩

/-- A run without stops. -/
theorem follows_after {keeper : Supervisor τ} (hconfig : keeper.config = config)
    (hsound : sound keeper.host) {steps : List Step}
    (hsteps : ∀ step ∈ steps, ∀ port, step ≠ .stop port) :
    Follows config sound entries keeper (keeper.after steps) := by
  induction steps generalizing keeper with
  | nil => exact ⟨hconfig, hsound, Nat.le_refl _, List.Subset.refl _⟩
  | cons step rest ih =>
      obtain ⟨hstep, hrest⟩ := List.forall_mem_cons.mp hsteps
      have hnext := follows_next hprompt hlockDir hmarker hconfig hsound hstep
      exact hnext.trans (ih hnext.config_eq hnext.sound hrest)

/-- Once a start on a port has returned, the service is listed there at all times. -/
theorem listed_after_start {keeper : Supervisor τ} (hconfig : keeper.config = config)
    (hsound : sound keeper.host) {before rest : List Step} {port : UInt16} {wait : Nat}
    (hsteps : ∀ step ∈ before ++ .start port wait :: rest, ∀ port, step ≠ .stop port)
    (hreturns : ((keeper.after before).event (.start port wait)).isCut = false) :
    let last := keeper.after (before ++ .start port wait :: rest)
    Listed config.marker port last.clock (entries last.host) := by
  obtain ⟨hbefore, -, hrest⟩ :=
    (List.forall_mem_append.trans (and_congr_right' List.forall_mem_cons)).mp hsteps
  have hnow := follows_after hprompt hlockDir hmarker hconfig hsound hbefore
  obtain ⟨hstart, hlisted, -⟩ :=
    start_prompt hprompt hlockDir hmarker hnow.config_eq hnow.sound port wait
  rw [after_append, after_cons]
  exact (follows_after hprompt hlockDir hmarker hstart.config_eq hstart.sound hrest).listed
    (hlisted hreturns)

/-- Nothing is launched on a port where the service is listed. -/
theorem not_isLaunch_of_listed {keeper : Supervisor τ} (hconfig : keeper.config = config)
    (hsound : sound keeper.host) {steps : List Step}
    (hsteps : ∀ step ∈ steps, ∀ port, step ≠ .stop port) {port : UInt16}
    (hlisted : Listed config.marker port keeper.clock (entries keeper.host)) :
    ∀ event ∈ keeper.events steps, ¬ event.isLaunch port = true := by
  induction steps generalizing keeper with
  | nil => exact fun event hevent => absurd hevent List.not_mem_nil
  | cons step rest ih =>
      obtain ⟨hstep, hrest⟩ := List.forall_mem_cons.mp hsteps
      have hnext := follows_next hprompt hlockDir hmarker hconfig hsound hstep
      refine List.forall_mem_cons.mpr
        ⟨fun hlaunch => ?_, ih hnext.config_eq hnext.sound hrest (hnext.listed hlisted)⟩
      obtain ⟨wait, rfl, hstart⟩ := eq_start_of_isLaunch hlaunch
      obtain ⟨-, -, hfound, -⟩ := start_prompt hprompt hlockDir hmarker hconfig hsound port wait
      exact hstart (hfound (hlisted.mono (Nat.le_add_right _ _) (List.Subset.refl _))).1

/-- A run without stops launches the service once at most on a port, as long as its steps
return. -/
theorem countP_isLaunch_le {keeper : Supervisor τ} (hconfig : keeper.config = config)
    (hsound : sound keeper.host) {steps : List Step}
    (hsteps : ∀ step ∈ steps, ∀ port, step ≠ .stop port)
    (hreturns : keeper.Returns steps.dropLast) (port : UInt16) :
    (keeper.events steps).countP (Event.isLaunch port) ≤ 1 := by
  induction steps generalizing keeper with
  | nil => exact Nat.zero_le 1
  | cons step rest ih =>
      cases rest with
      | nil => exact List.countP_le_length
      | cons second more =>
          obtain ⟨hstep, hrest⟩ := List.forall_mem_cons.mp hsteps
          obtain ⟨hfirst, hlater⟩ := returns_cons_iff.mp hreturns
          have hnext := follows_next hprompt hlockDir hmarker hconfig hsound hstep
          rw [events, List.countP_cons]
          by_cases hlaunch : (keeper.event step).isLaunch port = true
          · -- the service is listed from here on
            obtain ⟨wait, rfl, -⟩ := eq_start_of_isLaunch hlaunch
            obtain ⟨-, hlisted, -⟩ :=
              start_prompt hprompt hlockDir hmarker hconfig hsound port wait
            have hnone := not_isLaunch_of_listed hprompt hlockDir hmarker hnext.config_eq
              hnext.sound hrest (hlisted hfirst)
            exact Nat.le_of_eq (by rw [if_pos hlaunch, List.countP_eq_zero.mpr hnone])
          · rw [if_neg hlaunch]
            exact ih hnext.config_eq hnext.sound hrest hlater

omit hprompt hlockDir hmarker

end Supervisor

end BrowserBridge
