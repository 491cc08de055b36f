import BrowserBridge.Proofs.Sidecar.Clock
import BrowserBridge.Sidecar.Table
import Mathlib.Data.List.Induction

/-!
The books of a keeper.  It knows for each port the process that it launched last, unless the
port was stopped since then; whatever else is done or fails leaves the books alone.  What
does not launch or end anything leaves the processes of the machine alone too.
-/

namespace BrowserBridge

/-- What is seen of a machine stays as it is when a port is looked at, when a lock is taken
and when a launch fails. -/
structure Host.Keeps {τ α : Type} [Host τ] (view : τ → α) : Prop where
  list (port : UInt16) (now : Nat) (host : τ) : view (Host.list port now host).2 = view host
  lock (path : String) (host : τ) : view (Host.lock path host).2 = view host
  spawn {program : String} {args : List String} {now : Nat} {host : τ} {fault : Fault}
    (hfails : (Host.spawn program args now host).1 = .error fault) :
    view (Host.spawn program args now host).2 = view host

namespace ProcessTable

/-- The processes of a table are kept so. -/
theorem keeps_entries : Host.Keeps ProcessTable.entries where
  list _ _ _ := rfl
  lock path table := by
    rw [lock_eq]
    split <;> rfl
  spawn {program args now table fault} hfails := by
    rw [spawn_eq] at hfails ⊢
    split at hfails
    · rename_i hspawn
      rw [if_pos hspawn]
      rfl
    · cases hfails

end ProcessTable

namespace Supervisor

section

variable {τ : Type}

theorem lookup_filter_bne {α β : Type} [BEq α] [LawfulBEq α] (entries : List (α × β))
    (key other : α) :
    (entries.filter fun entry => entry.1 != key).lookup other =
      if other == key then none else entries.lookup other := by
  induction entries with
  | nil => simp
  | cons entry rest ih =>
      obtain ⟨name, value⟩ := entry
      by_cases hkey : name = key
      · subst hkey
        rw [List.filter_cons_of_neg (by simp), ih, List.lookup_cons]
        cases hother : other == name <;> simp
      · rw [List.filter_cons_of_pos (by simpa using hkey), List.lookup_cons, List.lookup_cons, ih]
        cases hother : other == name with
        | false => rfl
        | true =>
            have hne : (other == key) = false := by
              rw [eq_of_beq hother]
              simpa using hkey
            rw [hne]
            rfl

variable (supervisor : Supervisor τ) (port other : UInt16)

@[simp] theorem launchedPid?_forget :
    (supervisor.forget port).launchedPid? other =
      if other = port then none else supervisor.launchedPid? other := by
  rw [launchedPid?, forget, lookup_filter_bne]
  by_cases hport : other = port
  · simp [hport]
  · simp [hport, launchedPid?]

@[simp] theorem launchedPid?_remember (pid : Option UInt32) :
    (supervisor.remember port pid).launchedPid? other =
      if other = port then pid else supervisor.launchedPid? other := by
  rw [launchedPid?, remember, List.lookup_cons]
  by_cases hport : other = port
  · simp [hport]
  · have hforget := launchedPid?_forget supervisor port other
    rw [if_neg hport] at hforget ⊢
    rw [beq_false_of_ne hport]
    exact hforget

end

variable {τ : Type} [Host τ]

@[simp] theorem launchedPid?_waited (supervisor : Supervisor τ) (port other : UInt16) :
    (supervisor.waited port).launchedPid? other = supervisor.launchedPid? other := rfl

@[simp] theorem launchedPid?_tried (supervisor : Supervisor τ) (port other : UInt16) (wait : Nat) :
    (supervisor.tried port wait).launchedPid? other = supervisor.launchedPid? other := rfl

@[simp] theorem launchedPid?_settled (supervisor : Supervisor τ) (port other : UInt16)
    (wait : Nat) (pid : Option UInt32) :
    (supervisor.settled port wait pid).launchedPid? other =
      if other = port then pid else supervisor.launchedPid? other := by
  unfold settled
  dsimp only
  split <;> simp

/-- An event that enters a process for a port into the books or strikes it out. -/
inductive Event.Books (port : UInt16) : Event → Prop
  | launched (pid : Option UInt32) : Books port (.started port (.launched pid))
  | cutShort (pid : Option UInt32) : Books port (.cutShort port pid)
  | stopped (count : Nat) : Books port (.stopped port true count)

theorem Event.Books.port? {port : UInt16} {event : Event} (h : event.Books port) :
    event.port? = some port := by
  cases h <;> rfl

/-- The process that an event leaves in the books for a port, where it had another one. -/
def Event.booked (port : UInt16) (pid : Option UInt32) : Event → Option UInt32
  | .started other (.launched new) => if port = other then new else pid
  | .cutShort other new => if port = other then new else pid
  | .stopped other true _ => if port = other then none else pid
  | _ => pid

theorem Event.booked_of_not_books {port : UInt16} {event : Event} (pid : Option UInt32)
    (h : ¬ event.Books port) : event.booked port pid = pid := by
  cases event with
  | started other outcome =>
      cases outcome with
      | launched new =>
          refine if_neg ?_
          rintro rfl
          exact h (.launched new)
      | _ => rfl
  | cutShort other new =>
      refine if_neg ?_
      rintro rfl
      exact h (.cutShort new)
  | stopped other known count =>
      cases known with
      | false => rfl
      | true =>
          refine if_neg ?_
          rintro rfl
          exact h (.stopped count)
  | _ => rfl

theorem Event.booked_eq_some_iff {port : UInt16} {event : Event} (pid : Option UInt32) {new : UInt32}
    (h : event.Books port) :
    event.booked port pid = some new ↔
      event = .started port (.launched (some new)) ∨ event = .cutShort port (some new) := by
  cases h with
  | launched launched => simp [booked]
  | cutShort launched => simp [booked]
  | stopped count => simp [booked]

/-- An event stands among others, and behind it nothing enters or strikes out a process for
the port. -/
def Event.IsLast (port : UInt16) (event : Event) (events : List Event) : Prop :=
  ∃ before rest, events = before ++ event :: rest ∧ ∀ later ∈ rest, ¬ later.Books port

theorem Event.isLast_append_of_books {port : UInt16} {event last : Event} {events : List Event}
    (h : last.Books port) : event.IsLast port (events ++ [last]) ↔ last = event := by
  constructor
  · rintro ⟨before, rest, hevents, hrest⟩
    rcases List.eq_nil_or_concat rest with rfl | ⟨front, behind, rfl⟩
    · exact (List.append_singleton_inj.mp hevents).2
    · rw [List.concat_eq_append, ← List.cons_append, ← List.append_assoc] at hevents
      have hlast : last = behind := (List.append_singleton_inj.mp hevents).2
      exact absurd h (hrest last (by simp [hlast]))
  · rintro rfl
    exact ⟨events, [], rfl, by simp⟩

theorem Event.isLast_append_of_not_books {port : UInt16} {event last : Event}
    {events : List Event} (hevent : event.Books port) (h : ¬ last.Books port) :
    event.IsLast port (events ++ [last]) ↔ event.IsLast port events := by
  constructor
  · rintro ⟨before, rest, hevents, hrest⟩
    rcases List.eq_nil_or_concat rest with rfl | ⟨front, behind, rfl⟩
    · rw [(List.append_singleton_inj.mp hevents).2] at h
      exact absurd hevent h
    · rw [List.concat_eq_append, ← List.cons_append, ← List.append_assoc] at hevents
      exact ⟨before, front, (List.append_singleton_inj.mp hevents).1,
        fun later hlater => hrest later (by simp [hlater])⟩
  · rintro ⟨before, rest, rfl, hrest⟩
    refine ⟨before, rest ++ [last], by simp, fun later hlater => ?_⟩
    rcases List.mem_append.mp hlater with hbefore | hlast
    · exact hrest later hbefore
    · rwa [List.mem_singleton.mp hlast]

/-- One step: the books are as the event has it. -/
theorem launchedPid?_next (supervisor : Supervisor τ) (step : Step) (port : UInt16) :
    (supervisor.next step).launchedPid? port =
      (supervisor.event step).booked port (supervisor.launchedPid? port) := by
  cases step with
  | start other wait =>
      rcases supervisor.start_cases other wait with
        ⟨-, hstart⟩ | ⟨hlooking, ⟨fault, -, hstart⟩ | ⟨pid, hlaunch, hstart⟩⟩
      · rw [next, event, hstart]
        rfl
      · rw [next, event, hstart]
        rfl
      · rw [next, event_of_launching hlooking hlaunch, hstart, launchedPid?_settled]
        cases supervisor.overruns other wait <;> rfl
  | stop other =>
      rw [next, event]
      cases hlisting : (supervisor.listing other).1 with
      | error fault =>
          rw [stop_of_error hlisting]
          rfl
      | ok processes =>
          obtain ⟨host, hhost⟩ := terminateAll_keeps (supervisor.marked processes)
            (supervisor.withHost (supervisor.listing other).2)
          rw [stop_of_ok hlisting, hhost, launchedPid?_forget]
          rfl
  | isRunning other => rfl
  | pass nanos => rfl

/-- A run: the books have what was entered last. -/
theorem launchedPid?_after (supervisor : Supervisor τ) (hempty : supervisor.handles = [])
    (steps : List Step) (port : UInt16) (pid : UInt32) :
    (supervisor.after steps).launchedPid? port = some pid ↔
      Event.IsLast port (.started port (.launched (some pid))) (supervisor.events steps) ∨
        Event.IsLast port (.cutShort port (some pid)) (supervisor.events steps) := by
  induction steps using List.reverseRecOn with
  | nil => simp [launchedPid?, hempty, events, Event.IsLast]
  | append_singleton steps step ih =>
      have hlast : (supervisor.after (steps ++ [step])).launchedPid? port =
          ((supervisor.after steps).event step).booked port
            ((supervisor.after steps).launchedPid? port) := by
        rw [after_append]
        exact launchedPid?_next _ step port
      rw [hlast, events_append]
      by_cases hbooks : ((supervisor.after steps).event step).Books port
      · rw [Event.booked_eq_some_iff _ hbooks]
        exact (or_congr (Event.isLast_append_of_books hbooks)
          (Event.isLast_append_of_books hbooks)).symm
      · rw [Event.booked_of_not_books _ hbooks, ih]
        exact (or_congr (Event.isLast_append_of_not_books (.launched _) hbooks)
          (Event.isLast_append_of_not_books (.cutShort _) hbooks)).symm

/-- A run whose steps all return: the books have what the last start there said. -/
theorem launchedPid?_after_of_returns {supervisor : Supervisor τ}
    (hempty : supervisor.handles = []) {steps : List Step} (hreturns : supervisor.Returns steps)
    (port : UInt16) (pid : UInt32) :
    (supervisor.after steps).launchedPid? port = some pid ↔
      Event.IsLast port (.started port (.launched (some pid))) (supervisor.events steps) := by
  rw [launchedPid?_after supervisor hempty]
  refine or_iff_left ?_
  rintro ⟨before, rest, hevents, -⟩
  have hmem : .cutShort port (some pid) ∈ supervisor.events steps := by
    rw [hevents]
    exact List.mem_append_right before List.mem_cons_self
  cases hreturns _ hmem

theorem launchedPid?_next_of_ne (supervisor : Supervisor τ) {step : Step} {port : UInt16}
    (h : step.port? ≠ some port) :
    (supervisor.next step).launchedPid? port = supervisor.launchedPid? port := by
  rw [launchedPid?_next]
  refine Event.booked_of_not_books _ fun hbooks => h ?_
  rw [← port?_event supervisor, hbooks.port?]

/-- Between the two keepers nothing has changed that is seen of the machine, and nothing in
the books. -/
structure Undisturbed {α : Type} (view : τ → α) (before after : Supervisor τ) : Prop where
  view : view after.host = view before.host
  launchedPid? (port : UInt16) : after.launchedPid? port = before.launchedPid? port

section

variable {α : Type} {view : τ → α} (hview : Host.Keeps view) (supervisor : Supervisor τ)

include hview

theorem view_locking (port : UInt16) :
    view (supervisor.locking port).2 = view supervisor.host := by
  unfold locking
  cases supervisor.config.lockPath port with
  | none => rfl
  | some path => exact hview.lock path supervisor.host

theorem view_looking (port : UInt16) :
    view (supervisor.looking port).2 = view supervisor.host := by
  rw [looking, listens_eq]
  exact hview.list port supervisor.clock supervisor.host

theorem view_looked (port : UInt16) (wait : Nat) :
    view (supervisor.looked port wait).host = view supervisor.host :=
  (view_looking hview (supervisor.ready port wait) port).trans (view_locking hview supervisor port)

/-- A start that launches nothing changes nothing. -/
theorem undisturbed_start {port : UInt16} {wait : Nat}
    (h : (start port wait supervisor).1 = .ok .alreadyRunning ∨
      (start port wait supervisor).1 = .ok .failed) :
    Undisturbed view supervisor (supervisor.next (.start port wait)) := by
  rw [next]
  rcases supervisor.start_cases port wait with
    ⟨-, hstart⟩ | ⟨-, ⟨fault, hlaunch, hstart⟩ | ⟨pid, -, hstart⟩⟩
  · rw [hstart]
    exact ⟨view_looked hview supervisor port wait, fun _ => rfl⟩
  · rw [hstart]
    exact ⟨(hview.spawn hlaunch).trans (view_looked hview supervisor port wait), fun _ => rfl⟩
  · rw [hstart] at h
    cases hover : supervisor.overruns port wait with
    | true =>
        rw [hover] at h
        rcases h with h | h <;> cases h
    | false =>
        rw [hover] at h
        rcases h with h | h <;> cases h

end

end Supervisor

end BrowserBridge
