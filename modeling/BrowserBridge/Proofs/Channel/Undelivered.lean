import BrowserBridge.Proofs.Channel.Answered
import BrowserBridge.Proofs.Channel.Permanence

/-!
Whether the request to end the service goes out.  The call succeeds when the peer goes away,
and it does not tell a peer that goes away while the request is written from one that goes
away instead of replying.  So its success says that the request was sent unless writing it
broke off.
-/

namespace BrowserBridge

open Wire

/-- An idle service was ended precisely if it holds no session and its end succeeded. -/
theorem Service.quitIfInactive_eq_true_iff {σ : Type} [Service σ] {service last : σ} :
    quitIfInactive service = .ok true last ↔
      ∃ (active : Int32) (middle : σ), perform .activeDrivers service = .ok active middle ∧
        ¬ 0 < active ∧ perform .shutService middle = .ok () last := by
  constructor
  · intro hquit
    cases hactive : perform .activeDrivers service with
    | error fault middle =>
        have hfails : quitIfInactive service = .error fault middle := bind_of_error hactive
        rw [hfails] at hquit
        cases hquit
    | ok active middle =>
        have hrest : quitIfInactive service = (if 0 < active then pure false
            else perform .shutService >>= fun () => pure true : EStateM Fault σ Bool) middle :=
          bind_of_ok hactive
        rw [hrest] at hquit
        by_cases hbusy : 0 < active
        · rw [if_pos hbusy] at hquit
          cases hquit
        · rw [if_neg hbusy] at hquit
          refine ⟨active, middle, rfl, hbusy, ?_⟩
          cases hshut : perform .shutService middle with
          | error fault stopped =>
              rw [bind_of_error hshut] at hquit
              cases hquit
          | ok _ stopped =>
              rw [bind_of_ok hshut] at hquit
              cases hquit
              rfl
  · rintro ⟨active, middle, hactive, hidle, hshut⟩
    refine (bind_of_ok hactive).trans ?_
    rw [if_neg hidle]
    exact bind_of_ok hshut

namespace Channel

/-- The next request of a call is written and flushed without a failure. -/
def Sends (channel : Channel) (call : Call) : Prop :=
  ∃ stream, Stream.send (call.request (channel.sequence + 1)) channel.stream = .ok () stream

/-- Writing the next request of a call fails because the peer is gone. -/
def BreaksOff (channel : Channel) (call : Call) : Prop :=
  ∃ fault stream, Stream.send (call.request (channel.sequence + 1)) channel.stream =
    .error (.io fault) stream ∧ fault.kind.isDisconnect = true

theorem Sends.not_breaksOff {channel : Channel} {call : Call} (h : channel.Sends call) :
    ¬ channel.BreaksOff call := by
  rintro ⟨fault, stopped, hbroken, -⟩
  obtain ⟨stream, hsent⟩ := h
  rw [hsent] at hbroken
  cases hbroken

/-- A peer that goes away while it takes the request. -/
theorem breaksOff_of_obstruct {channel : Channel} {taken : Nat} {fault : IoFault}
    {rest : List Reaction} (call : Call) (hwritable : channel.stream.writeFault = none)
    (hscript : channel.stream.script = .obstruct taken (.io fault) :: rest)
    (hgone : fault.kind.isDisconnect = true) : channel.BreaksOff call := by
  have hsend (request : Bytes) : Stream.send request channel.stream = .error (.io fault)
      { channel.stream with
        script := rest
        sent := channel.stream.sent ++ request.take taken
        writeFault := some fault } := by
    rw [Stream.send, hwritable, hscript]
  exact ⟨fault, _, hsend _, hgone⟩

section

variable {channel : Channel} (hclosed : channel.closed = false)
  (hpoisoned : channel.poisoned = false)

include hclosed hpoisoned

/-- A request that does not go out ends the service all the same if the peer is gone. -/
theorem shutService_of_send_error {fault : SendFault} {stream : Stream}
    (hsend : Stream.send (Call.request .shutService (channel.sequence + 1)) channel.stream =
      .error fault stream) :
    let last : Channel :=
      { channel with sequence := channel.sequence + 1, stream := stream, poisoned := true }
    Service.perform .shutService channel =
      if (sendFault fault Method.shutService.name (patience channel.options)).isDisconnect then
        .ok () last
      else .error (sendFault fault Method.shutService.name (patience channel.options)) last := by
  intro last
  change orGone (call NoResult .shutService NoArguments.mk) channel = _
  rw [orGone, call_of_send_error hclosed hpoisoned hsend]

/-- The call succeeds without its request having gone out precisely if writing breaks off. -/
theorem shutService_unsent_iff :
    (∃ last, Service.perform .shutService channel = .ok () last) ∧ ¬ channel.Sends .shutService ↔
      channel.BreaksOff .shutService := by
  constructor
  · rintro ⟨⟨last, hends⟩, hunsent⟩
    cases hsend : Stream.send (Call.request .shutService (channel.sequence + 1))
        channel.stream with
    | ok _ stream => exact absurd ⟨stream, hsend⟩ hunsent
    | error fault stream =>
        rw [shutService_of_send_error hclosed hpoisoned hsend] at hends
        cases fault with
        | stalled => cases hends
        | io fault =>
            refine ⟨fault, stream, hsend, ?_⟩
            cases hkind : fault.kind.isDisconnect with
            | true => rfl
            | false =>
                have hpresent : ¬ (Fault.io fault).isDisconnect = true := by
                  simp [Fault.isDisconnect, hkind]
                rw [sendFault, if_neg hpresent] at hends
                cases hends
  · intro hbroken
    refine ⟨?_, fun hsent => hsent.not_breaksOff hbroken⟩
    obtain ⟨fault, stream, hsend, hgone⟩ := hbroken
    exact ⟨_, (shutService_of_send_error hclosed hpoisoned hsend).trans (if_pos hgone)⟩

/-- A request that goes out is on the stream, whatever the call comes to. -/
theorem sent_shutService (h : channel.Sends .shutService) :
    (channel.next .shutService).stream.sent =
      channel.stream.sent ++ Call.request .shutService (channel.sequence + 1) := by
  obtain ⟨stream, hsend⟩ := h
  have hlast : channel.next .shutService =
      finalOf (call NoResult .shutService NoArguments.mk channel) := finalOf_orGone _ channel
  have hsent : stream.sent =
      channel.stream.sent ++ Call.request .shutService (channel.sequence + 1) :=
    (send_eq_ok hsend).1
  obtain ⟨unread, poisoned, hcall⟩ :=
    finalOf_call (ρ := NoResult) .shutService NoArguments.mk hclosed hpoisoned
  rw [hlast, hcall, ← hsent, ← Stream.writing_of_ok hsend]
  rfl

end

/-- A channel that has counted the sessions is open and usable for the call that follows. -/
theorem usable_of_active {channel middle : Channel} {active : Int32}
    (h : Service.perform .activeDrivers channel = .ok active middle) :
    channel.next .activeDrivers = middle ∧ (channel.next .activeDrivers).closed = false ∧
      (channel.next .activeDrivers).poisoned = false := by
  have hnext : channel.next .activeDrivers = middle := by rw [next, h]; rfl
  obtain ⟨hclosed, -, hpoisoned⟩ := call_eq_ok h
  refine ⟨hnext, ?_, hnext ▸ hpoisoned⟩
  rw [(next_keeps_open channel rfl).closed, hclosed]

/-- Precisely when the end of the service is reported though the request for it did not go
out whole: when writing it breaks off because the peer is gone.  A request that does go out
is on the stream entirely.  So too for an idle service, whose end is asked for after it has
answered that it holds no session. -/
theorem ended_unsent_iff (channel : Channel) (hclosed : channel.closed = false)
    (hpoisoned : channel.poisoned = false) :
    let idle := channel.next .activeDrivers
    ((∃ last, Service.perform .shutService channel = .ok () last) ∧
        ¬ channel.Sends .shutService ↔ channel.BreaksOff .shutService) ∧
    (channel.Sends .shutService → (channel.next .shutService).stream.sent =
      channel.stream.sent ++ Call.request .shutService (channel.sequence + 1)) ∧
    ((∃ last, Service.quitIfInactive channel = .ok true last) ∧ ¬ idle.Sends .shutService ↔
      (∃ active : Int32, outcomeOf (Service.perform .activeDrivers channel) = .ok active ∧
        ¬ 0 < active) ∧ idle.BreaksOff .shutService) := by
  intro idle
  refine ⟨shutService_unsent_iff hclosed hpoisoned, sent_shutService hclosed hpoisoned, ?_⟩
  constructor
  · rintro ⟨⟨last, hquit⟩, hunsent⟩
    obtain ⟨active, middle, hactive, hidle, hends⟩ := Service.quitIfInactive_eq_true_iff.mp hquit
    obtain ⟨hmiddle, hopen, husable⟩ := usable_of_active hactive
    refine ⟨⟨active, by rw [hactive]; rfl, hidle⟩, ?_⟩
    rw [← hmiddle] at hends
    exact (shutService_unsent_iff hopen husable).mp ⟨⟨last, hends⟩, hunsent⟩
  · rintro ⟨⟨active, houtcome, hidle⟩, hbroken⟩
    cases hactive : Service.perform .activeDrivers channel with
    | error fault middle =>
        rw [hactive] at houtcome
        cases houtcome
    | ok count middle =>
        rw [hactive] at houtcome
        cases houtcome
        obtain ⟨hmiddle, hopen, husable⟩ := usable_of_active hactive
        obtain ⟨⟨last, hends⟩, hunsent⟩ := (shutService_unsent_iff hopen husable).mpr hbroken
        refine ⟨⟨last, Service.quitIfInactive_eq_true_iff.mpr ⟨active, middle, hactive, hidle, ?_⟩⟩,
          hunsent⟩
        rwa [← hmiddle]

/-- A peer that answers that it holds no session and is gone in the middle of the next
request. -/
theorem ended_unsent_after_count :
    let count := Record.message "active_drivers" .reply 1 (CountResult.mk (some 0))
    let channel := ofStream (.ofScript [.answer fun _ => (count, .silent),
      .obstruct 9 (.io ⟨.connectionReset, "reset"⟩)] none) ChannelOptions.default
    ∃ last, Service.quitIfInactive channel = .ok true last ∧
      ¬ (channel.next .activeDrivers).Sends .shutService := by
  intro count channel
  have hcount : EncodesMessage ⟨"active_drivers", .reply, 1⟩ _ count :=
    Message.encodes ⟨⟨"active_drivers", .reply, 1⟩, .countResult, ⟨some 0⟩⟩ (by decide)
  have hsend : Stream.send (Call.request .activeDrivers 1) channel.stream = .ok () _ := rfl
  obtain ⟨houtcome, hstream⟩ : outcomeOf (Service.perform .activeDrivers channel) = _ ∧
      (channel.next .activeDrivers).stream = _ :=
    perform_of_reply rfl rfl rfl hsend hcount (List.append_nil _).symm (by decide) (by decide)
  have hbroken : (channel.next .activeDrivers).BreaksOff .shutService :=
    breaksOff_of_obstruct .shutService (congrArg Stream.writeFault hstream)
      (congrArg Stream.script hstream) rfl
  obtain ⟨⟨last, hlast⟩, hunsent⟩ :=
    (ended_unsent_iff channel rfl rfl).2.2.mpr ⟨⟨0, houtcome, by decide⟩, hbroken⟩
  exact ⟨last, hlast, hunsent⟩

/-- So success does not always mean that the request was sent. -/
theorem ended_not_always_sent :
    ¬ ∀ channel last : Channel, channel.closed = false → channel.poisoned = false →
      Service.perform .shutService channel = .ok () last → channel.Sends .shutService := by
  intro h
  obtain ⟨stream, hsent⟩ := h
    (ofStream (.ofScript [.refuse ⟨.brokenPipe, "broken pipe"⟩] none) ChannelOptions.default)
    _ rfl rfl rfl
  cases hsent

end Channel

end BrowserBridge
