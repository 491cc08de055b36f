import BrowserBridge.Proofs.Sidecar.Prompt
import Mathlib.Algebra.Order.Floor.Div
import Mathlib.Order.Bounds.Defs

/-!
How long a start waits for the service that it has launched.  It looks at the port at once, then
after every poll interval, and for the last time when the startup timeout is over.  So it ends
at the first of these times at which the service is listed, or with the timeout.  If the clock
ends before the timeout, it does not look at all.
-/

namespace BrowserBridge

/-- What is done at a port, with its time. -/
inductive Host.Act where
  | look (time : Nat)
  | launch (time : Nat)
  deriving DecidableEq

/-- On a machine in sound condition a port can be looked at, and the service can be launched
there that is not launched yet.  `sound` tells when it was launched, and `acts` what was done at
the port.  No processes with the marker are listed on the port but those of the launch, and these
from `delay` after it on, or never. -/
structure Host.Lone {τ : Type} [Host τ] (config : SidecarConfig) (port : UInt16)
    (delay : Option Nat) (sound : (launched : Option Nat) → τ → Prop) (acts : τ → List Act) :
    Prop where
  list {launched : Option Nat} {host : τ} (hsound : sound launched host) (now : Nat) :
    ∃ processes, (Host.list port now host).1 = .ok processes ∧
      (processes.any (·.hasMarker config.marker) = true ↔
        ∃ launch ∈ launched, ∃ span ∈ delay, launch + span ≤ now)
  after_list {launched : Option Nat} {host : τ} (hsound : sound launched host) (now : Nat) :
    sound launched (Host.list port now host).2 ∧
      acts (Host.list port now host).2 = acts host ++ [.look now]
  after_lock {launched : Option Nat} {host : τ} (hsound : sound launched host) (path : String) :
    sound launched (Host.lock path host).2 ∧ acts (Host.lock path host).2 = acts host
  spawn {host : τ} (hsound : sound none host) (now : Nat) :
    ∃ pid, (Host.spawn config.runtime (config.launchArgs port) now host).1 = .ok pid
  after_spawn {host : τ} (hsound : sound none host) (now : Nat) :
    sound (some now) (Host.spawn config.runtime (config.launchArgs port) now host).2 ∧
      acts (Host.spawn config.runtime (config.launchArgs port) now host).2 =
        acts host ++ [.launch now]

namespace ProcessTable

/-- What an action is at a port. -/
def actOn? (port : UInt16) : Nat × TableCall → Option Host.Act
  | (time, .list other) => if other = port then some (.look time) else none
  | (time, .spawn _ args) => if portOf args = port then some (.launch time) else none
  | (_, .terminate _) => none

/-- What was done at a port, in order. -/
def actsOn (port : UInt16) (table : ProcessTable) : List Host.Act :=
  table.calls.reverse.filterMap (actOn? port)

theorem actsOn_of_calls {port : UInt16} {table later : ProcessTable} {call : Nat × TableCall}
    {act : Host.Act} (hcalls : later.calls = call :: table.calls)
    (hact : actOn? port call = some act) : later.actsOn port = table.actsOn port ++ [act] := by
  rw [actsOn, hcalls, List.reverse_cons, List.filterMap_append, List.filterMap_cons_some hact]
  rfl

/-- A launch changes nothing but the processes. -/
theorem launch_frame (table : ProcessTable) (program : String) (args : List String) (now : Nat) :
    let launched := table.launch program args now
    launched.queryFails = table.queryFails ∧ launched.spawnFails = table.spawnFails ∧
      launched.listenDelay = table.listenDelay ∧ launched.calls = table.calls := by
  cases hdelay : table.listenDelay with
  | none => simp [launch, hdelay]
  | some delay => simp [launch_of_delay hdelay, add, hdelay]

/-- On a port where nothing is listed ever a process is listed after a launch, if it listens. -/
theorem listed_launch {table : ProcessTable} {marker program : String} {port : UInt16}
    {args : List String} (hunlisted : ∀ later, ¬ Listed marker port later table.entries)
    (hport : portOf args = port)
    (hmarker : (⟨table.nextPid, program⟩ : ProcessInfo).hasMarker marker = true) (now later : Nat) :
    Listed marker port later (table.launch program args now).entries ↔
      ∃ span ∈ table.listenDelay, now + span ≤ later := by
  cases hdelay : table.listenDelay with
  | none =>
      have hentries : (table.launch program args now).entries = table.entries := by
        simp [launch, hdelay]
      rw [hentries]
      simpa using hunlisted later
  | some delay =>
      rw [launch_of_delay hdelay]
      constructor
      · rintro ⟨entry, hentry, hlisted⟩
        rcases List.mem_append.mp hentry with hold | hnew
        · exact absurd ⟨entry, hold, hlisted⟩ (hunlisted later)
        · obtain rfl := List.mem_singleton.mp hnew
          exact ⟨delay, rfl, hlisted.2.1⟩
      · rintro ⟨span, hspan, hvisible⟩
        cases hspan
        exact ⟨_, List.mem_append_right _ List.mem_cons_self, hport, hvisible, hmarker⟩

/-- Queries and launches succeed on a table, and the processes with the marker on a port are
those of one launch, or there was none yet. -/
structure Solitary (marker : String) (port : UInt16) (delay launched : Option Nat)
    (table : ProcessTable) : Prop where
  query : table.queryFails = false
  spawn : table.spawnFails = false
  listens : table.listenDelay = delay
  listed (now : Nat) : Listed marker port now table.entries ↔
    ∃ launch ∈ launched, ∃ span ∈ delay, launch + span ≤ now

/-- Such a table is a machine as it is asked for. -/
theorem lone_solitary (config : SidecarConfig) (port : UInt16) (delay : Option Nat)
    (hmarker : ∀ process : ProcessInfo, process.name = config.runtime →
      process.hasMarker config.marker = true) :
    Host.Lone config port delay (Solitary config.marker port delay) (actsOn port) where
  list {launched table} hlone now := by
    refine ⟨table.visible port now, ?_, ?_⟩
    · rw [list_eq, hlone.query]
      rfl
    · rw [← hlone.listed]
      simp [visible, Listed, and_assoc]
  after_list hlone now :=
    ⟨⟨hlone.query, hlone.spawn, hlone.listens, hlone.listed⟩, actsOn_of_calls rfl (if_pos rfl)⟩
  after_lock {launched table} hlone path := by
    rw [lock_eq]
    by_cases hlock : table.lockable = true
    · rw [if_pos hlock]
      exact ⟨⟨hlone.query, hlone.spawn, hlone.listens, hlone.listed⟩, rfl⟩
    · rw [if_neg hlock]
      exact ⟨hlone, rfl⟩
  spawn {table} hlone now := by
    rw [spawn_eq, hlone.spawn]
    exact ⟨_, rfl⟩
  after_spawn {table} hlone now := by
    let noted := table.note now (.spawn config.runtime (config.launchArgs port))
    have hport := portOf_launchArgs config port
    have hunlisted : ∀ later, ¬ Listed config.marker port later noted.entries := by
      intro later hlisted
      obtain ⟨launch, hlaunch, -⟩ := (hlone.listed later).mp hlisted
      cases hlaunch
    obtain ⟨hquery, hspawn, hlistens, hcalls⟩ :=
      noted.launch_frame config.runtime (config.launchArgs port) now
    rw [spawn_eq, hlone.spawn]
    refine ⟨⟨hquery.trans hlone.query, hspawn.trans hlone.spawn, hlistens.trans hlone.listens,
      fun later => ?_⟩, actsOn_of_calls hcalls (if_pos hport)⟩
    rw [← hlone.listens]
    refine (listed_launch hunlisted hport (hmarker _ rfl) now later).trans ?_
    simp [noted, note]

end ProcessTable

namespace Supervisor

/-- The times, counted from its beginning, at which a wait may look at the port: the multiples
of the poll interval that are below the timeout, and the timeout. -/
def IsPoll (timeout time : Nat) : Prop :=
  time < timeout ∧ pollInterval ∣ time ∨ time = timeout

/-- The time of a look, by its number. -/
def pollTime (timeout number : Nat) : Nat := min (number * pollInterval) timeout

theorem isPoll_iff {timeout time : Nat} :
    IsPoll timeout time ↔ ∃ number, pollTime timeout number = time := by
  have hpos : 0 < pollInterval := by decide
  constructor
  · rintro (⟨hbelow, number, rfl⟩ | rfl)
    · exact ⟨number, by rw [pollTime, Nat.mul_comm, Nat.min_eq_left (Nat.le_of_lt hbelow)]⟩
    · exact ⟨time, Nat.min_eq_right (Nat.le_mul_of_pos_right time hpos)⟩
  · rintro ⟨number, rfl⟩
    by_cases hbelow : number * pollInterval < timeout
    · have htime := Nat.min_eq_left (Nat.le_of_lt hbelow)
      exact .inl ⟨by rwa [pollTime, htime], by rw [pollTime, htime]; exact Nat.dvd_mul_left ..⟩
    · exact .inr (Nat.min_eq_right (Nat.not_lt.mp hbelow))

theorem pollTime_le (timeout number : Nat) : pollTime timeout number ≤ timeout :=
  Nat.min_le_right _ _

theorem pollTime_mono {timeout first second : Nat} (h : first ≤ second) :
    pollTime timeout first ≤ pollTime timeout second := by
  have hmul := Nat.mul_le_mul_right pollInterval h
  unfold pollTime
  omega

/-- The next look after one before the timeout. -/
theorem pollTime_succ {timeout number : Nat} (h : pollTime timeout number < timeout) :
    pollTime timeout (number + 1) =
      pollTime timeout number + min pollInterval (timeout - pollTime timeout number) := by
  unfold pollTime at h ⊢
  rw [Nat.succ_mul]
  omega

/-- How many looks there are before the timeout. -/
theorem le_ceilDiv_of_pollTime_lt {timeout number : Nat} (h : pollTime timeout number < timeout) :
    number + 1 ≤ timeout ⌈/⌉ pollInterval := by
  have hbelow : number * pollInterval < timeout := by
    unfold pollTime at h
    omega
  rw [Nat.ceilDiv_eq_add_pred_div, Nat.le_div_iff_mul_le (by decide), Nat.succ_mul]
  omega

/-- A wait that has come to the look `first` ends with the look `last`: by then the service is
listed or the timeout is over, and neither was so at a look before it. -/
structure EndsAt (delay : Option Nat) (timeout first last : Nat) : Prop where
  le : first ≤ last
  ends : (∃ span ∈ delay, span ≤ pollTime timeout last) ∨ pollTime timeout last = timeout
  goes_on (number : Nat) (hfirst : first ≤ number) (hlast : number < last) :
    pollTime timeout number < timeout ∧ ∀ span ∈ delay, pollTime timeout number < span

theorem EndsAt.of_ends {delay : Option Nat} {timeout number : Nat}
    (h : (∃ span ∈ delay, span ≤ pollTime timeout number) ∨ pollTime timeout number = timeout) :
    EndsAt delay timeout number number where
  le := Nat.le_refl number
  ends := h
  goes_on _ hfirst hlast := absurd hlast (Nat.not_lt.mpr hfirst)

theorem EndsAt.of_succ {delay : Option Nat} {timeout first last : Nat}
    (h : EndsAt delay timeout (first + 1) last) (htime : pollTime timeout first < timeout)
    (hspan : ∀ span ∈ delay, pollTime timeout first < span) : EndsAt delay timeout first last where
  le := Nat.le_of_succ_le h.le
  ends := h.ends
  goes_on number hfirst hlast := by
    rcases Nat.eq_or_lt_of_le hfirst with rfl | hlater
    · exact ⟨htime, hspan⟩
    · exact h.goes_on number hlater hlast

section

variable {delay : Option Nat} {timeout last : Nat} (h : EndsAt delay timeout 0 last)

include h

/-- A service that is listed before the timeout is over ends the wait at the next look. -/
theorem EndsAt.isLeast {span : Nat} (hdelay : span ∈ delay) (hspan : span ≤ timeout) :
    IsLeast {time | IsPoll timeout time ∧ span ≤ time} (pollTime timeout last) := by
  refine ⟨⟨isPoll_iff.mpr ⟨last, rfl⟩, ?_⟩, ?_⟩
  · rcases h.ends with ⟨other, hother, hlisted⟩ | hover
    · rwa [Option.mem_unique hdelay hother]
    · rwa [hover]
  · rintro time ⟨hpoll, htime⟩
    obtain ⟨number, rfl⟩ := isPoll_iff.mp hpoll
    by_cases hearlier : number < last
    · have hunlisted := (h.goes_on number (Nat.zero_le _) hearlier).2 span hdelay
      exact absurd htime (Nat.not_le.mpr hunlisted)
    · exact pollTime_mono (Nat.not_lt.mp hearlier)

/-- A service that is not listed before the timeout is over is waited for till then. -/
theorem EndsAt.eq_timeout (hdelay : ∀ span ∈ delay, timeout < span) :
    pollTime timeout last = timeout := by
  rcases h.ends with ⟨span, hspan, hlisted⟩ | hover
  · have hlate := hdelay span hspan
    have hlast := pollTime_le timeout last
    omega
  · exact hover

theorem EndsAt.looks_le : last + 1 ≤ timeout ⌈/⌉ pollInterval + 1 := by
  cases last with
  | zero => exact Nat.le_add_left _ _
  | succ number =>
      have hbefore := (h.goes_on number (Nat.zero_le _) (Nat.lt_succ_self _)).1
      exact Nat.succ_le_succ (le_ceilDiv_of_pollTime_lt hbefore)

/-- When the wait is over, the service is listed precisely if it is listed in time at all. -/
theorem EndsAt.listed_iff :
    (∃ span ∈ delay, span ≤ pollTime timeout last) ↔ ∃ span ∈ delay, span ≤ timeout := by
  constructor
  · rintro ⟨span, hdelay, hspan⟩
    exact ⟨span, hdelay, Nat.le_trans hspan (pollTime_le timeout last)⟩
  · rintro ⟨span, hdelay, hspan⟩
    exact ⟨span, hdelay, (h.isLeast hdelay hspan).1.2⟩

end

/-- The looks of a wait from one number up to another one. -/
def looks (launch timeout first last : Nat) : List Host.Act :=
  (List.range' first (last + 1 - first)).map fun number => .look (launch + pollTime timeout number)

theorem looks_self (launch timeout number : Nat) :
    looks launch timeout number number = [.look (launch + pollTime timeout number)] := by
  rw [looks, Nat.add_sub_cancel_left]
  rfl

theorem looks_cons {launch timeout first last : Nat} (h : first ≤ last) :
    looks launch timeout first last =
      .look (launch + pollTime timeout first) :: looks launch timeout (first + 1) last := by
  rw [looks, looks, Nat.sub_add_comm h, List.range'_succ, List.map_cons, Nat.add_sub_add_right]

section

variable {τ : Type} [Host τ] {config : SidecarConfig} {port : UInt16} {delay : Option Nat}
  {sound : Option Nat → τ → Prop} {acts : τ → List Host.Act}
  (hlone : Host.Lone config port delay sound acts)

include hlone

/-- A look finds the service if it was launched long enough ago. -/
theorem listens_lone {launched : Option Nat} {host : τ} (hsound : sound launched host)
    (now : Nat) :
    let found := listens config.marker port now host
    (found.1 = true ↔ ∃ launch ∈ launched, ∃ span ∈ delay, launch + span ≤ now) ∧
      sound launched found.2 ∧ acts found.2 = acts host ++ [.look now] := by
  obtain ⟨processes, hlist, hmarked⟩ := hlone.list hsound now
  rw [listens_eq, hlist]
  exact ⟨hmarked, hlone.after_list hsound now⟩

/-- A look at a port where the service was launched. -/
theorem listens_launched {launch : Nat} {host : τ} (hsound : sound (some launch) host)
    (span : Nat) :
    let found := listens config.marker port (launch + span) host
    (found.1 = true ↔ ∃ least ∈ delay, least ≤ span) ∧
      sound (some launch) found.2 ∧ acts found.2 = acts host ++ [.look (launch + span)] := by
  obtain ⟨hfound, hrest⟩ := listens_lone hlone hsound (launch + span)
  refine ⟨hfound.trans ?_, hrest⟩
  simp

/-- Waiting, from one of its looks on. -/
theorem awaitListener_lone {launch timeout number now : Nat} {host : τ}
    (hnow : now = launch + pollTime timeout number) (hsound : sound (some launch) host) :
    let found := awaitListener config.marker port (launch + timeout) now host
    ∃ last, EndsAt delay timeout number last ∧ found.1.2 = launch + pollTime timeout last ∧
      sound (some launch) found.2 ∧ acts found.2 = acts host ++ looks launch timeout number last := by
  have htime := pollTime_le timeout number
  fun_induction awaitListener config.marker port (launch + timeout) now host generalizing number with
  | case1 now host looked hlistens =>
      subst hnow
      obtain ⟨hfound, hlast⟩ := listens_launched hlone hsound (pollTime timeout number)
      rw [hlistens] at hfound hlast
      exact ⟨number, .of_ends (.inl (hfound.mp rfl)), rfl, looks_self .. ▸ hlast⟩
  | case2 now host looked hlistens hover =>
      subst hnow
      obtain ⟨-, hlast⟩ := listens_launched hlone hsound (pollTime timeout number)
      rw [hlistens] at hlast
      exact ⟨number, .of_ends (.inr (by omega)), rfl, looks_self .. ▸ hlast⟩
  | case3 now host looked hlistens hover ih =>
      -- the time of the next look is that of the next number
      subst hnow
      obtain ⟨hfound, hlast, hacts⟩ := listens_launched hlone hsound (pollTime timeout number)
      rw [hlistens] at hfound hlast hacts
      have hbefore : pollTime timeout number < timeout := by omega
      have hunlisted : ∀ span ∈ delay, pollTime timeout number < span := by
        intro span hdelay
        by_contra hlisted
        exact Bool.false_ne_true (hfound.mpr ⟨span, hdelay, Nat.not_lt.mp hlisted⟩)
      have hthen : launch + pollTime timeout number + min pollInterval
          (launch + timeout - (launch + pollTime timeout number)) =
            launch + pollTime timeout (number + 1) := by
        rw [pollTime_succ hbefore]
        omega
      obtain ⟨last, hends, hclock, hsound, hrest⟩ := ih hthen hlast (pollTime_le _ _)
      refine ⟨last, hends.of_succ hbefore hunlisted, hclock, hsound, ?_⟩
      rw [hrest, hacts, looks_cons (Nat.le_of_succ_le hends.le), List.append_assoc]
      rfl

/-- Taking the lock does nothing at the port. -/
theorem locking_lone {keeper : Supervisor τ} {launched : Option Nat}
    (hsound : sound launched keeper.host) :
    sound launched (keeper.locking port).2 ∧
      acts (keeper.locking port).2 = acts keeper.host := by
  unfold locking
  cases keeper.config.lockPath port with
  | none => exact ⟨hsound, rfl⟩
  | some path => exact hlone.after_lock hsound path

/-- A start finds nothing where the service was not launched. -/
theorem looked_lone {keeper : Supervisor τ} (hconfig : keeper.config = config)
    (hsound : sound none keeper.host) (wait : Nat) :
    let looked := keeper.looked port wait
    ((keeper.ready port wait).looking port).1 = false ∧ sound none looked.host ∧
      acts looked.host = acts keeper.host ++ [.look (keeper.clock + debounce config wait)] := by
  subst hconfig
  obtain ⟨hlocked, hacts⟩ := locking_lone hlone hsound
  obtain ⟨hfound, hlooked⟩ :=
    listens_lone hlone hlocked (keeper.clock + debounce keeper.config wait)
  rw [hacts] at hlooked
  refine ⟨Bool.eq_false_iff.mpr fun h => ?_, hlooked⟩
  obtain ⟨launch, hlaunch, -⟩ := hfound.mp h
  cases hlaunch

/-- So it launches the service, and then it may wait. -/
theorem start_lone {keeper : Supervisor τ} (hconfig : keeper.config = config)
    (hsound : sound none keeper.host) (wait : Nat) :
    let launch := keeper.clock + debounce config wait
    ∃ pid, ∃ launched : Supervisor τ, start port wait keeper =
        (if keeper.overruns port wait then .error .pastClock else .ok (.launched pid),
          if keeper.waits port && !keeper.overruns port wait then launched.waited port
          else launched) ∧
      launched.config = config ∧ launched.clock = launch ∧ sound (some launch) launched.host ∧
      acts launched.host = acts keeper.host ++ [.look launch, .launch launch] := by
  obtain ⟨hnone, hlooked, hacts⟩ := looked_lone hlone hconfig hsound wait
  subst hconfig
  obtain ⟨pid, hpid⟩ := hlone.spawn hlooked (keeper.clock + debounce keeper.config wait)
  obtain ⟨hlaunched, hadded⟩ :=
    hlone.after_spawn hlooked (keeper.clock + debounce keeper.config wait)
  rw [hacts, List.append_assoc] at hadded
  refine ⟨pid, (keeper.tried port wait).remember port pid, ?_, rfl, rfl, hlaunched, hadded⟩
  rcases keeper.start_cases port wait with
    ⟨hfound, -⟩ | ⟨-, ⟨fault, hfault, -⟩ | ⟨other, hother, hstart⟩⟩
  · cases hnone.symm.trans hfound
  · cases hpid.symm.trans hfault
  · cases hpid.symm.trans hother
    exact hstart

/-- Waiting from the launch on. -/
theorem waited_lone {keeper : Supervisor τ} (hconfig : keeper.config = config) {launch : Nat}
    (hclock : keeper.clock = launch) (hsound : sound (some launch) keeper.host) :
    let timeout := config.startupTimeout.nanos
    let last := keeper.waited port
    ∃ number, EndsAt delay timeout 0 number ∧
      last.clock = launch + pollTime timeout number ∧ sound (some launch) last.host ∧
      acts last.host = acts keeper.host ++ looks launch timeout 0 number := by
  subst hconfig hclock
  exact awaitListener_lone hlone (by simp [pollTime]) hsound

theorem isRunning_launched {keeper : Supervisor τ} (hconfig : keeper.config = config)
    {launch span : Nat} (hclock : keeper.clock = launch + span)
    (hsound : sound (some launch) keeper.host) :
    (isRunning port keeper).1 = true ↔ ∃ least ∈ delay, least ≤ span := by
  subst hconfig
  have hfound := (listens_launched hlone hsound span).1
  rwa [← hclock] at hfound

omit hlone

end

-- the longest startup timeout that there is
example :
    let config := { SidecarConfig.default with
      lockDir := some "/locks", startupTimeout := ⟨0x10000000000000000 * 1000000000 - 1, by decide⟩ }
    let keeper := fresh config (ProcessTable.empty true)
    (start 9091 7 keeper).1 = .error .pastClock ∧
      (keeper.next (.start 9091 7)).launchedPid? 9091 = some 1001 := by
  decide +kernel

end Supervisor

end BrowserBridge
