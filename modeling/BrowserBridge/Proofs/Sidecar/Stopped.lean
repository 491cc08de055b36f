import BrowserBridge.Proofs.Sidecar.Step
import BrowserBridge.Sidecar.Table

/-!
What stopping does to a table of processes.  The processes to end are found out once, and then
they are ended one after the other while the table shrinks.  Ended are those with the marker
that are listed on the port and no others, in the order of their listing, and only what
cannot be ended is left of them.
-/

namespace BrowserBridge

namespace TableEntry

/-- The entry is listed on the port at that time, and its name contains the marker, whatever
the case of their ASCII letters. -/
def IsMarked (entry : TableEntry) (marker : String) (port : UInt16) (now : Nat) : Prop :=
  entry.port = port ∧ entry.visibleFrom ≤ now ∧
    ProcessInfo.lowered marker <:+: ProcessInfo.lowered entry.process.name

theorem isMarked_iff {entry : TableEntry} {marker : String} {port : UInt16} {now : Nat} :
    entry.IsMarked marker port now ↔
      (entry.port = port ∧ entry.visibleFrom ≤ now) ∧ entry.process.hasMarker marker = true := by
  rw [IsMarked, ProcessInfo.hasMarker, ProcessInfo.isWithin_iff, and_assoc]

instance (marker : String) (port : UInt16) (now : Nat) :
    DecidablePred fun entry : TableEntry => entry.IsMarked marker port now :=
  fun _ => decidable_of_iff' _ isMarked_iff

end TableEntry

namespace ProcessTable

/-- The entries with the marker that are listed on a port. -/
def marked (table : ProcessTable) (marker : String) (port : UInt16) (now : Nat) :
    List TableEntry :=
  table.entries.filter fun entry => entry.IsMarked marker port now

theorem mem_marked_iff {table : ProcessTable} {marker : String} {port : UInt16} {now : Nat}
    {entry : TableEntry} :
    entry ∈ table.marked marker port now ↔
      entry ∈ table.entries ∧ entry.IsMarked marker port now := by
  simp [marked]

/-- Those with the marker among the processes that are listed. -/
theorem filter_visible (table : ProcessTable) (marker : String) (port : UInt16) (now : Nat) :
    (table.visible port now).filter (·.hasMarker marker) =
      (table.marked marker port now).map (·.process) := by
  rw [visible, marked, List.filter_map, List.filter_filter]
  congr 1
  apply List.filter_congr
  intro entry _
  rw [Bool.eq_iff_iff]
  simp [TableEntry.isMarked_iff, and_comm]

/-- The table once it was asked to end processes, of which some cannot be ended. -/
def ended (table : ProcessTable) (now : Nat) (pids : List UInt32) : ProcessTable :=
  { table with
    entries := table.entries.filter fun entry =>
      entry.process.pid ∉ pids ∨ entry.process.pid ∈ table.immortal
    calls := (pids.map fun pid => (now, .terminate pid)).reverse ++ table.calls }

@[simp] theorem ended_nil (table : ProcessTable) (now : Nat) : table.ended now [] = table := by
  have hall : table.entries.filter (fun _ => true) = table.entries :=
    List.filter_eq_self.mpr fun _ _ => rfl
  simp [ended, hall]

/-- Ending one process before others is ending them all. -/
theorem ended_cons (table : ProcessTable) (now : Nat) (pid : UInt32) (rest : List UInt32) :
    (table.ended now [pid]).ended now rest = table.ended now (pid :: rest) := by
  simp only [ended, List.filter_filter, List.map_cons, List.map_nil, List.reverse_cons,
    List.reverse_nil, List.nil_append, List.append_assoc, List.singleton_append]
  congr 1
  apply List.filter_congr
  intro entry _
  by_cases hstays : entry.process.pid ∈ table.immortal <;> simp [hstays, Bool.and_comm]

/-- Of the entries with the marker those are left that cannot be ended or were not to be. -/
theorem marked_ended (table : ProcessTable) (now : Nat) (pids : List UInt32) (marker : String)
    (port : UInt16) (later : Nat) :
    (table.ended now pids).marked marker port later =
      (table.marked marker port later).filter fun entry =>
        entry.process.pid ∉ pids ∨ entry.process.pid ∈ table.immortal := by
  simp only [marked, ended, List.filter_filter, Bool.and_comm]

/-- One process that is to be ended. -/
theorem terminate_eq (table : ProcessTable) (pid : UInt32) (now : Nat) :
    Host.terminate pid now table =
      (if pid ∈ table.immortal then .error (.processQuery "termination failed") else .ok (),
        table.ended now [pid]) := by
  by_cases hstays : pid ∈ table.immortal
  · have hkept : table.ended now [pid] = table.note now (.terminate pid) := by
      have hall : ∀ entry ∈ table.entries,
          entry.process.pid ∉ [pid] ∨ entry.process.pid ∈ table.immortal := by
        intro entry _
        by_cases hsame : entry.process.pid = pid
        · exact .inr (hsame ▸ hstays)
        · exact .inl (by simpa using hsame)
      rw [ended, List.filter_eq_self.mpr (by simpa using hall)]
      rfl
    rw [if_pos hstays, hkept]
    exact congrFun (if_pos (List.contains_iff_mem.mpr hstays)) (table.note now (.terminate pid))
  · have hgone : table.ended now [pid] = (table.note now (.terminate pid)).remove pid := by
      rw [ended, remove, note]
      congr 1
      apply List.filter_congr
      intro entry _
      by_cases hsame : entry.process.pid = pid <;> simp [hsame, hstays]
    rw [if_neg hstays, hgone]
    exact congrFun (if_neg (mt List.contains_iff_mem.mp hstays)) (table.note now (.terminate pid))

end ProcessTable

namespace Supervisor

theorem onHost_eq {τ α : Type} (act : Nat → StateM τ α) (keeper : Supervisor τ) :
    onHost act keeper =
      ((act keeper.clock keeper.host).1, keeper.withHost (act keeper.clock keeper.host).2) := rfl

/-- The loop over the processes: it ends and counts those that can be ended, and notes them
all in order. -/
theorem terminateAll_eq (pids : List UInt32) (keeper : Supervisor ProcessTable) :
    terminateAll pids keeper =
      (pids.countP (· ∉ keeper.host.immortal),
        keeper.withHost (keeper.host.ended keeper.clock pids)) := by
  induction pids generalizing keeper with
  | nil => simp [terminateAll, withHost]; rfl
  | cons pid rest ih =>
      let middle := keeper.withHost (keeper.host.ended keeper.clock [pid])
      have hfirst : onHost (Host.terminate pid) keeper =
          (if pid ∈ keeper.host.immortal then .error (.processQuery "termination failed")
            else .ok (), middle) := by
        rw [onHost_eq, ProcessTable.terminate_eq]
      have hrest : terminateAll rest middle = (rest.countP (· ∉ keeper.host.immortal),
          keeper.withHost (keeper.host.ended keeper.clock (pid :: rest))) := by
        rw [ih, ← ProcessTable.ended_cons]
        rfl
      rw [terminateAll, bind_apply, hfirst, bind_apply, hrest, List.countP_cons]
      by_cases hstays : pid ∈ keeper.host.immortal <;> simp [hstays] <;> rfl

/-- A look at a port finds an entry with the marker. -/
theorem isRunning_iff {keeper : Supervisor ProcessTable} (hquery : keeper.host.queryFails = false)
    (port : UInt16) :
    (isRunning port keeper).1 = true ↔
      ∃ entry, entry ∈ keeper.host.marked keeper.config.marker port keeper.clock := by
  change (listens keeper.config.marker port keeper.clock keeper.host).1 = true ↔ _
  rw [listens_eq, ProcessTable.list_eq, hquery]
  change ((keeper.host.visible port keeper.clock).any _) = true ↔ _
  rw [List.any_eq_true]
  constructor
  · rintro ⟨process, hvisible, hmarker⟩
    have hfound : process ∈ (keeper.host.visible port keeper.clock).filter
        (·.hasMarker keeper.config.marker) := List.mem_filter.mpr ⟨hvisible, hmarker⟩
    rw [ProcessTable.filter_visible] at hfound
    obtain ⟨entry, hentry, -⟩ := List.mem_map.mp hfound
    exact ⟨entry, hentry⟩
  · rintro ⟨entry, hentry⟩
    have hfound : entry.process ∈ (keeper.host.marked keeper.config.marker port
        keeper.clock).map (·.process) := List.mem_map_of_mem hentry
    rw [← ProcessTable.filter_visible] at hfound
    exact ⟨_, List.mem_filter.mp hfound⟩

/-- Stopping a port whose processes are found out. -/
theorem stop_of_query {keeper : Supervisor ProcessTable} (hquery : keeper.host.queryFails = false)
    (port : UInt16) :
    let pids := (keeper.host.marked keeper.config.marker port keeper.clock).map (·.process.pid)
    stop port keeper = (pids.countP (· ∉ keeper.host.immortal),
      (keeper.withHost ((keeper.host.note keeper.clock (.list port)).ended keeper.clock pids)).forget
        port) := by
  intro pids
  have hlisting : (keeper.listing port).1 = .ok (keeper.host.visible port keeper.clock) := by
    rw [listing, ProcessTable.list_eq, hquery]
    rfl
  have hpids : keeper.marked (keeper.host.visible port keeper.clock) = pids := by
    rw [marked, ProcessTable.filter_visible, List.map_map]
    rfl
  rw [stop_of_ok hlisting, hpids, terminateAll_eq]
  rfl

/-- Of the entries with the marker a stop leaves those that cannot be ended. -/
theorem marked_stop {keeper : Supervisor ProcessTable} (hquery : keeper.host.queryFails = false)
    (port : UInt16) :
    let last := (stop port keeper).2
    last.host.marked last.config.marker port last.clock =
      (keeper.host.marked keeper.config.marker port keeper.clock).filter
        (·.process.pid ∈ keeper.host.immortal) := by
  rw [stop_of_query hquery port]
  refine (ProcessTable.marked_ended ..).trans (List.filter_congr fun entry hentry => ?_)
  have hpid : entry.process.pid ∈ (keeper.host.marked keeper.config.marker port
      keeper.clock).map (·.process.pid) := List.mem_map_of_mem hentry
  simp [hpid, ProcessTable.note]

/-- Stopping a port, on any table at any time.  If the processes can be found out, exactly the
entries with the marker that are listed on the port are asked to end, in the order of their
listing.  Counted are those that can be ended, and of the whole table exactly the entries of
their processes go.  At the same time the service then runs on the port precisely if an
entry with the marker cannot be ended, and stopping the port again ends nothing.  If the
processes cannot be found out, nothing is counted, and the table has noted no more than the
look at the port. -/
theorem stop_ends_marked (keeper : Supervisor ProcessTable) (port : UInt16) :
    let table := keeper.host
    let now := keeper.clock
    let marked := table.marked keeper.config.marker port now
    let ended := marked.filter fun entry => entry.process.pid ∉ table.immortal
    let last := (stop port keeper).2
    (∀ entry, entry ∈ marked ↔ entry ∈ table.entries ∧
      entry.IsMarked keeper.config.marker port now) ∧
    (table.queryFails = false →
      last.host.calls = (marked.map fun entry => (now, .terminate entry.process.pid)).reverse ++
        (now, .list port) :: table.calls ∧
      (stop port keeper).1 = ended.length ∧
      last.host.entries = table.entries.filter (fun entry =>
        entry.process.pid ∉ ended.map (·.process.pid)) ∧
      last.clock = now ∧
      ((isRunning port last).1 = true ↔
        ∃ entry ∈ marked, entry.process.pid ∈ table.immortal) ∧
      (stop port last).1 = 0) ∧
    (table.queryFails = true →
      (stop port keeper).1 = 0 ∧ last.host = table.note now (.list port)) := by
  intro table now marked ended last
  refine ⟨fun entry => ProcessTable.mem_marked_iff, fun hquery => ?_, fun hquery => ?_⟩
  · have hstop := stop_of_query hquery port
    have hhost : last.host = (table.note now (.list port)).ended now
        (marked.map (·.process.pid)) := congrArg (·.2.host) hstop
    have hstill : last.host.queryFails = false := by rw [hhost]; exact hquery
    have hleft : last.host.marked last.config.marker port last.clock =
        marked.filter (·.process.pid ∈ table.immortal) := marked_stop hquery port
    have hended : ended.map (·.process.pid) =
        (marked.map (·.process.pid)).filter (· ∉ table.immortal) := by
      rw [List.filter_map]
      rfl
    refine ⟨?_, ?_, ?_, congrArg (·.2.clock) hstop, ?_, ?_⟩
    · rw [hhost, ProcessTable.ended, List.map_map]
      rfl
    · rw [hstop, List.countP_map, List.countP_eq_length_filter]
      rfl
    · rw [hhost]
      apply List.filter_congr
      intro entry _
      rw [decide_eq_decide, hended, List.mem_filter, decide_eq_true_eq,
        Decidable.not_and_iff_not_or_not, Decidable.not_not]
      rfl
    · rw [isRunning_iff hstill, hleft]
      simp
    · rw [stop_of_query hstill, hleft]
      apply List.countP_eq_zero.mpr
      intro pid hpid
      obtain ⟨entry, hentry, rfl⟩ := List.mem_map.mp hpid
      have hstays := (List.mem_filter.mp hentry).2
      rw [hhost]
      simpa [ProcessTable.ended, ProcessTable.note] using hstays
  · have hlisting : (keeper.listing port).1 = .error (.processQuery "query failed") := by
      rw [listing, ProcessTable.list_eq, hquery]
      rfl
    have hstop := stop_of_error hlisting
    exact ⟨congrArg Prod.fst hstop, congrArg (·.2.host) hstop⟩

/-- A process listed twice on the port and once on another one, one that cannot be ended, one
without the marker and one that is not listed yet. -/
theorem stop_ends_marked_shared :
    let entries : List TableEntry :=
      [⟨9092, ⟨100, "Java"⟩, 0⟩, ⟨9091, ⟨100, "java"⟩, 0⟩, ⟨9092, ⟨200, "python"⟩, 0⟩,
        ⟨9092, ⟨300, "openJAVA"⟩, 4⟩, ⟨9092, ⟨100, "java"⟩, 5⟩, ⟨9092, ⟨400, "java"⟩, 6⟩]
    let table := { ProcessTable.empty false with entries := entries, immortal := [300] }
    let keeper := (fresh SidecarConfig.default table).pass 5
    let last := (stop 9092 keeper).2
    (stop 9092 keeper).1 = 2 ∧
      last.host.calls = [(5, .terminate 100), (5, .terminate 300), (5, .terminate 100),
        (5, .list 9092)] ∧
      last.host.entries = [⟨9092, ⟨200, "python"⟩, 0⟩, ⟨9092, ⟨300, "openJAVA"⟩, 4⟩,
        ⟨9092, ⟨400, "java"⟩, 6⟩] ∧
      (isRunning 9092 last).1 = true ∧ (stop 9092 last).1 = 0 ∧
      (stop 9092 (keeper.withHost { table with queryFails := true })).1 = 0 := by
  intro entries table keeper last
  obtain ⟨-, hknown, -⟩ := stop_ends_marked keeper 9092
  obtain ⟨hcalls, hcount, hentries, -, hrunning, hagain⟩ := hknown rfl
  obtain ⟨-, -, hunknown⟩ :=
    stop_ends_marked (keeper.withHost { table with queryFails := true }) 9092
  refine ⟨hcount.trans (by decide +kernel), hcalls.trans (by decide +kernel),
    hentries.trans (by decide +kernel), hrunning.mpr ?_, hagain, (hunknown rfl).1⟩
  exact ⟨⟨9092, ⟨300, "openJAVA"⟩, 4⟩, by decide +kernel, by decide +kernel⟩

end Supervisor

end BrowserBridge
