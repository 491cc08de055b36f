import BrowserBridge.Proofs.Channel.Run

/-!
Closed channels.  Closing is for good: whatever is done before and after it, a closed
channel issues no call and stays as it is.  It refuses every method but the one that ends
the service, which takes the refusal for a peer that is gone and succeeds.
-/

namespace BrowserBridge

/-- What the owner of a channel does with it. -/
inductive Operation where
  | call (call : Call)
  /-- Ends the service if it holds no session. -/
  | quitIfInactive
  deriving DecidableEq, Repr

namespace Channel

/-- The channel after an operation. -/
def operate (channel : Channel) : Operation → Channel
  | .call call => channel.next call
  | .quitIfInactive => finalOf (Service.quitIfInactive channel)

/-- The channel after operations in order. -/
def run (channel : Channel) : List Operation → Channel
  | [] => channel
  | operation :: rest => (channel.operate operation).run rest

theorem after_append (channel : Channel) (first second : List Call) :
    channel.after (first ++ second) = (channel.after first).after second := by
  induction first generalizing channel with
  | nil => rfl
  | cons call rest ih => exact ih (channel.next call)

/-- A sequence of two acts ends where the first one fails, or where the second one ends
after the first. -/
theorem bind_cases {α β : Type} (act : EStateM Fault Channel α)
    (rest : α → EStateM Fault Channel β) (channel : Channel) :
    finalOf ((act >>= rest) channel) = finalOf (act channel) ∨
      ∃ a, finalOf ((act >>= rest) channel) = finalOf (rest a (finalOf (act channel))) := by
  change finalOf (EStateM.bind act rest channel) = _ ∨
    ∃ a, finalOf (EStateM.bind act rest channel) = _
  unfold EStateM.bind
  cases act channel with
  | error fault last => exact .inl rfl
  | ok a last => exact .inr ⟨a, rfl⟩

/-- Ending an idle service comes down to one call or two. -/
theorem operate_quitIfInactive (channel : Channel) :
    channel.operate .quitIfInactive = channel.next .activeDrivers ∨
      channel.operate .quitIfInactive = (channel.next .activeDrivers).next .shutService := by
  rcases bind_cases (Service.perform Call.activeDrivers) _ channel with hfirst | ⟨active, hrest⟩
  · exact .inl hfirst
  · by_cases hsome : 0 < active
    · rw [if_pos hsome] at hrest
      exact .inl hrest
    · rw [if_neg hsome] at hrest
      rcases bind_cases (Service.perform Call.shutService) _ (channel.next .activeDrivers) with
        hsecond | ⟨_, hsecond⟩
      · exact .inr (hrest.trans hsecond)
      · exact .inr (hrest.trans hsecond)

/-- Every operation comes down to calls. -/
theorem operate_eq_after (channel : Channel) (operation : Operation) :
    ∃ calls, channel.operate operation = channel.after calls ∧
      ∀ call, operation = .call call → call ∈ calls := by
  cases operation with
  | call call => exact ⟨[call], rfl, by simp⟩
  | quitIfInactive =>
      rcases operate_quitIfInactive channel with hone | htwo
      · exact ⟨[.activeDrivers], hone, by simp⟩
      · exact ⟨[.activeDrivers, .shutService], htwo, by simp⟩

/-- Every run of operations comes down to calls. -/
theorem run_eq_after (operations : List Operation) (channel : Channel) :
    ∃ calls, channel.run operations = channel.after calls ∧
      ∀ call, .call call ∈ operations → call ∈ calls := by
  induction operations generalizing channel with
  | nil => exact ⟨[], rfl, by simp⟩
  | cons operation rest ih =>
      obtain ⟨first, hfirst, hcall⟩ := operate_eq_after channel operation
      obtain ⟨second, hsecond, hcalls⟩ := ih (channel.operate operation)
      refine ⟨first ++ second, ?_, fun call hmem => ?_⟩
      · rw [after_append, ← hfirst]
        exact hsecond
      · rcases List.mem_cons.mp hmem with hhead | htail
        · exact List.mem_append_left _ (hcall call hhead.symm)
        · exact List.mem_append_right _ (hcalls call htail)

/-- A closed channel is left as it is by every call. -/
theorem next_of_closed {channel : Channel} (call : Call) (h : channel.closed = true) :
    channel.next call = channel := by
  cases hmethod : call.method? with
  | some method => exact next_of_refused (by simp [hmethod]) (.inl h)
  | none =>
      cases call with
      | close =>
          change finalOf (close channel) = channel
          rw [close, if_pos h]
          rfl
      | _ => cases hmethod

/-- Closing succeeds or fails, and the channel is closed. -/
theorem closed_next_close (channel : Channel) : (channel.next .close).closed = true := by
  obtain ⟨shutdowns, hclose⟩ := next_close_eq channel
  rw [hclose]

theorem after_of_closed {channel : Channel} (calls : List Call) (h : channel.closed = true) :
    channel.after calls = channel := by
  induction calls with
  | nil => rfl
  | cons call rest ih =>
      change (channel.next call).after rest = channel
      rw [next_of_closed call h, ih]

/-- Once closed, closed for good. -/
theorem closed_after {calls : List Call} (channel : Channel) (h : .close ∈ calls) :
    (channel.after calls).closed = true := by
  obtain ⟨front, back, rfl⟩ := List.append_of_mem h
  rw [after_append]
  change (((channel.after front).next .close).after back).closed = true
  have hclosed := closed_next_close (channel.after front)
  rw [after_of_closed back hclosed]
  exact hclosed

theorem closed_run {operations : List Operation} (channel : Channel)
    (h : .call .close ∈ operations) : (channel.run operations).closed = true := by
  obtain ⟨calls, hrun, hcalls⟩ := run_eq_after operations channel
  rw [hrun]
  exact closed_after channel (hcalls .close h)

theorem call_of_closed {α ρ : Type} [Record α] [Reply ρ] {channel : Channel} (method : Method)
    (arguments : α) (h : channel.closed = true) :
    Channel.call ρ method arguments channel = .error .connectionClosed channel := by
  rw [Channel.call, if_pos h]

/-- A closed channel refuses every call but the one that ends the service. -/
theorem perform_of_closed {channel : Channel} {call : Call} (hmethod : call.method?.isSome)
    (hcall : call ≠ .shutService) (h : channel.closed = true) :
    Service.perform call channel = .error .connectionClosed channel := by
  cases call with
  | shutService => exact absurd rfl hcall
  | close => cases hmethod
  | _ => exact call_of_closed _ _ h

/-- To the call that ends the service, a closed channel is a peer that is gone. -/
theorem perform_shutService_of_closed {channel : Channel} (h : channel.closed = true) :
    Service.perform .shutService channel = .ok () channel := by
  change orGone (Channel.call NoResult .shutService NoArguments.mk) channel = _
  rw [orGone, call_of_closed _ _ h]
  rfl

/-- Precisely which methods a closed channel refuses.  After operations among which it is
closed, whatever closing came to and whether or not the channel is poisoned too, a call
leaves the channel as it is, and it fails as refused unless it is the one that ends the
service.  That one succeeds without anything having been sent. -/
theorem refused_after_close_iff (channel : Channel) (operations : List Operation)
    (hclose : .call .close ∈ operations) :
    let closed := channel.run operations
    (∀ call : Call, call.method?.isSome →
      (Service.perform call closed = .error .connectionClosed closed ↔ call ≠ .shutService)) ∧
    Service.perform .shutService closed = .ok () closed := by
  intro closed
  have hclosed : closed.closed = true := closed_run channel hclose
  have hends := perform_shutService_of_closed hclosed
  refine ⟨fun call hmethod => ⟨fun hrefused => ?_, fun hcall => ?_⟩, hends⟩
  · rintro rfl
    rw [hends] at hrefused
    cases hrefused
  · exact perform_of_closed hmethod hcall hclosed

/-- A channel that a call has poisoned, that fails to close and that is used further. -/
theorem refused_after_failed_close :
    let start := ofStream (.ofScript [.answer fun _ => ([0x80], .closed)] (some ⟨.other, "busy"⟩))
      ChannelOptions.default
    let channel := start.run [.call .activeDrivers, .call .close, .quitIfInactive]
    channel.poisoned = true ∧
      Service.perform (.execute none "newSession" "{}") channel =
        .error .connectionClosed channel := by
  intro start channel
  have hrefused := refused_after_close_iff start
    [.call .activeDrivers, .call .close, .quitIfInactive] (by decide)
  exact ⟨by decide +kernel, (hrefused.1 (.execute none "newSession" "{}") rfl).mpr (by decide)⟩

/-- So not every method is refused: the end of the service is reported without a call. -/
theorem closed_not_always_refusing :
    ¬ ∀ (channel : Channel) (operations : List Operation) (call : Call),
      .call .close ∈ operations → call.method?.isSome →
      Service.perform call (channel.run operations) =
        .error .connectionClosed (channel.run operations) := by
  intro h
  have hrefused := h (ofStream (.ofScript [] none) ChannelOptions.default) [.call .close]
    .shutService (by decide) rfl
  cases hrefused

end Channel

end BrowserBridge
