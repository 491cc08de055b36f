import BrowserBridge.Proofs.Channel.Closed

/-!
Channels that refuse.  A channel that was poisoned stays poisoned and one that was closed
stays closed, and both do nothing on their stream any more.  The stream is shut down by the
first close at most.
-/

namespace BrowserBridge.Channel

open Wire

/-- Between the two channels nothing was closed: neither the channel nor its stream. -/
structure KeepsOpen (before after : Channel) : Prop where
  closed : after.closed = before.closed
  shutdowns : after.stream.shutdowns = before.stream.shutdowns

theorem KeepsOpen.trans {before middle after : Channel} (hfirst : before.KeepsOpen middle)
    (hsecond : middle.KeepsOpen after) : before.KeepsOpen after where
  closed := hsecond.closed.trans hfirst.closed
  shutdowns := hsecond.shutdowns.trans hfirst.shutdowns

section

variable {α ρ : Type} [Record α] [Reply ρ]

theorem call_keeps_open (method : Method) (arguments : α) (channel : Channel) :
    channel.KeepsOpen (finalOf (call ρ method arguments channel)) := by
  by_cases hrefused : channel.closed = true ∨ channel.poisoned = true
  · rw [call_refused hrefused]
    exact ⟨rfl, rfl⟩
  · rw [not_or, Bool.not_eq_true, Bool.not_eq_true] at hrefused
    obtain ⟨unread, poisoned, hlast⟩ :=
      finalOf_call (ρ := ρ) method arguments hrefused.1 hrefused.2
    rw [hlast]
    exact ⟨rfl, Stream.shutdowns_writing _ _⟩

end

variable {channel : Channel}

/-- A method neither closes the channel nor shuts its stream down. -/
theorem next_keeps_open (channel : Channel) {call : Call} (hmethod : call.method?.isSome) :
    channel.KeepsOpen (channel.next call) := by
  cases call with
  | shutService =>
      change channel.KeepsOpen (finalOf (orGone _ channel))
      rw [finalOf_orGone]
      exact call_keeps_open _ _ channel
  | close => cases hmethod
  | _ => exact call_keeps_open _ _ channel

/-- Closing shuts the stream down once at most. -/
theorem shutdowns_next_close (channel : Channel) :
    (channel.next .close).stream.shutdowns ≤ channel.stream.shutdowns + 1 := by
  change (finalOf (close channel)).stream.shutdowns ≤ _
  unfold close
  split
  · exact Nat.le_succ _
  · rw [finalOf_orGone, shutdown, Stream.shutdown]
    cases channel.stream.writeFault with
    | some fault => exact Nat.le_succ _
    | none => cases channel.stream.shutdownFault <;> exact Nat.le_refl _

/-- A poisoned channel refuses every method, also the one that ends the service: nobody has
gone away. -/
theorem perform_of_poisoned {call : Call} (hmethod : call.method?.isSome)
    (hclosed : channel.closed = false) (hpoisoned : channel.poisoned = true) :
    Service.perform call channel = .error .connectionPoisoned channel := by
  have hcall {α ρ : Type} [Record α] [Reply ρ] (method : Method) (arguments : α) :
      Channel.call ρ method arguments channel = .error .connectionPoisoned channel := by
    rw [Channel.call, hclosed, hpoisoned]
    rfl
  cases call with
  | shutService =>
      change orGone (Channel.call NoResult .shutService NoArguments.mk) channel = _
      rw [orGone, hcall]
      rfl
  | close => cases hmethod
  | _ => exact hcall _ _

theorem quitIfInactive_of_error {last : Channel} {fault : Fault}
    (h : Service.perform .activeDrivers channel = .error fault last) :
    Service.quitIfInactive channel = .error fault last := by
  change (Service.perform .activeDrivers >>= _) channel = _
  exact bind_of_error h

/-- All that a channel does which refuses is to be closed. -/
theorem operate_of_refusing (hrefusing : channel.poisoned = true ∨ channel.closed = true)
    {operation : Operation} (hoperation : operation ≠ .call .close) :
    channel.operate operation = channel := by
  cases operation with
  | call call =>
      cases call with
      | close => exact absurd rfl hoperation
      | _ => exact next_of_refused rfl hrefusing.symm
  | quitIfInactive =>
      have hquit : ∃ fault, Service.quitIfInactive channel = .error fault channel := by
        cases hclosed : channel.closed with
        | true => exact ⟨_, quitIfInactive_of_error (perform_of_closed rfl (by simp) hclosed)⟩
        | false =>
            have hpoisoned : channel.poisoned = true := by simpa [hclosed] using hrefusing
            exact ⟨_, quitIfInactive_of_error (perform_of_poisoned rfl hclosed hpoisoned)⟩
      obtain ⟨fault, hfails⟩ := hquit
      rw [operate, hfails, finalOf]

theorem operate_of_closed (operation : Operation) (h : channel.closed = true) :
    channel.operate operation = channel := by
  by_cases hoperation : operation = .call .close
  · rw [hoperation]
    exact next_of_closed .close h
  · exact operate_of_refusing (.inr h) hoperation

theorem run_of_closed (operations : List Operation) (h : channel.closed = true) :
    channel.run operations = channel := by
  induction operations with
  | nil => rfl
  | cons operation rest ih => rw [run, operate_of_closed operation h, ih]

theorem poisoned_operate (operation : Operation) (h : channel.poisoned = true) :
    (channel.operate operation).poisoned = true := by
  by_cases hoperation : operation = .call .close
  · rw [hoperation]
    exact poisoned_next .close h
  · rwa [operate_of_refusing (.inl h) hoperation]

theorem poisoned_run (operations : List Operation) (h : channel.poisoned = true) :
    (channel.run operations).poisoned = true := by
  induction operations generalizing channel with
  | nil => exact h
  | cons operation rest ih => exact ih (poisoned_operate operation h)

theorem operate_keeps_open (channel : Channel) {operation : Operation}
    (hoperation : operation ≠ .call .close) : channel.KeepsOpen (channel.operate operation) := by
  cases operation with
  | call call =>
      cases call with
      | close => exact absurd rfl hoperation
      | _ => exact next_keeps_open channel rfl
  | quitIfInactive =>
      have hactive : channel.KeepsOpen (channel.next .activeDrivers) := next_keeps_open channel rfl
      rcases operate_quitIfInactive channel with hone | htwo
      · rwa [hone]
      · rw [htwo]
        exact hactive.trans (next_keeps_open _ rfl)

theorem run_keeps_open (channel : Channel) {operations : List Operation}
    (h : .call .close ∉ operations) : channel.KeepsOpen (channel.run operations) := by
  induction operations generalizing channel with
  | nil => exact ⟨rfl, rfl⟩
  | cons operation rest ih =>
      rw [List.mem_cons, not_or] at h
      have hfirst := operate_keeps_open channel (Ne.symm h.1)
      exact hfirst.trans (ih (channel.operate operation) h.2)

theorem run_append (channel : Channel) (first second : List Operation) :
    channel.run (first ++ second) = (channel.run first).run second := by
  induction first generalizing channel with
  | nil => rfl
  | cons operation rest ih => exact ih (channel.operate operation)

/-- What is done with a channel on any stream, and what it may still do then.  Poisoned it
stays poisoned, and closed it stays as it is.  While it is poisoned or closed nothing but
closing changes it: nothing is sent or read, and no number is used up.  While it is poisoned
and not closed every method fails for that.  The first close shuts the stream down once at
most and nothing is done after it; before it the stream is not shut down, and further
closes succeed. -/
theorem refusing_is_permanent (stream : Stream) (options : ChannelOptions)
    (operations : List Operation) :
    let start := ofStream stream options
    let channel := start.run operations
    (∀ further, (channel.poisoned = true → (channel.run further).poisoned = true) ∧
      (channel.closed = true → channel.run further = channel)) ∧
    (channel.poisoned = true ∨ channel.closed = true →
      ∀ operation, operation ≠ .call .close → channel.operate operation = channel) ∧
    (channel.poisoned = true → channel.closed = false →
      Service.quitIfInactive channel = .error .connectionPoisoned channel ∧
        ∀ call : Call, call.method?.isSome →
          Service.perform call channel = .error .connectionPoisoned channel) ∧
    (channel.closed = true → Service.perform .close channel = .ok () channel) ∧
    (.call .close ∉ operations →
      channel.closed = false ∧ channel.stream.shutdowns = stream.shutdowns) ∧
    ∀ before rest, operations = before ++ .call .close :: rest → .call .close ∉ before →
      channel.closed = true ∧ channel = (start.run before).next .close ∧
        channel.stream.shutdowns ≤ stream.shutdowns + 1 := by
  intro start channel
  refine ⟨fun further => ⟨poisoned_run further, run_of_closed further⟩,
    fun hrefusing operation hoperation => operate_of_refusing hrefusing hoperation,
    fun hpoisoned hclosed => ?_, fun hclosed => ?_, fun hnone => ?_, ?_⟩
  · exact ⟨quitIfInactive_of_error (perform_of_poisoned rfl hclosed hpoisoned),
      fun call hmethod => perform_of_poisoned hmethod hclosed hpoisoned⟩
  · change close channel = _
    rw [close, if_pos hclosed]
  · exact ⟨(run_keeps_open start hnone).closed, (run_keeps_open start hnone).shutdowns⟩
  · rintro before rest rfl hbefore
    have hclosed := closed_next_close (start.run before)
    have hlast : channel = (start.run before).next .close := by
      change start.run (before ++ .call .close :: rest) = _
      rw [run_append]
      exact run_of_closed rest hclosed
    have hshutdowns : (start.run before).stream.shutdowns = stream.shutdowns :=
      (run_keeps_open start hbefore).shutdowns
    rw [hlast, ← hshutdowns]
    exact ⟨hclosed, rfl, shutdowns_next_close _⟩

/-- A channel that a cut reply has poisoned is closed twice and used in between. -/
theorem refusing_is_permanent_after_cut_reply :
    let start := ofStream (.ofScript [.answer fun _ => ([0x80], .closed)] none)
      ChannelOptions.default
    let poisoned := start.run [.call .activeDrivers, .quitIfInactive]
    let closed := start.run ([.call .activeDrivers, .quitIfInactive] ++
      .call .close :: [.call .shutService, .call .close])
    poisoned.sequence = 1 ∧
      Service.perform .shutService poisoned = .error .connectionPoisoned poisoned ∧
      closed.poisoned = true ∧ closed = poisoned.next .close ∧ closed.stream.shutdowns = 1 := by
  intro start poisoned closed
  have hpoisoned : poisoned.poisoned = true := by decide +kernel
  have hrefuses := (refusing_is_permanent start.stream start.options
    [.call .activeDrivers, .quitIfInactive]).2.2.1 hpoisoned (by decide +kernel)
  obtain ⟨-, -, -, -, -, hclose⟩ := refusing_is_permanent start.stream start.options
    ([.call .activeDrivers, .quitIfInactive] ++ .call .close :: [.call .shutService, .call .close])
  exact ⟨by decide +kernel, hrefuses.2 .shutService rfl, by decide +kernel,
    (hclose _ _ rfl (by decide)).2.1, by decide +kernel⟩

end BrowserBridge.Channel
