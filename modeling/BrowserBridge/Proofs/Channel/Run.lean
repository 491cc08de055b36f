import BrowserBridge.Proofs.Channel.Step

/-!
Runs of a channel.  An unpoisoned channel stands between two messages: of what arrived
it has read one whole message for every call that was issued.  A call that succeeds
was answered by its own reply.
-/

namespace BrowserBridge

open Wire

/-- The method that a call is for, if it is for one. -/
def Call.method? : Call → Option Method
  | .attach _ => some .attach
  | .execute .. => some .execute
  | .checkLayout .. => some .checkLayout
  | .generateReport _ => some .generateReport
  | .activeDrivers => some .activeDrivers
  | .shutService => some .shutService
  | .close => none

/-- The answer to a call in the fields of its reply. -/
def Call.resolve : (call : Call) → Fields → Except Fault call.Answer
  | .attach _ => Channel.resolveAs NoResult .attach
  | .execute .. => Channel.resolveAs ExecuteResult .execute
  | .checkLayout .. => Channel.resolveAs LayoutResult .checkLayout
  | .generateReport _ => Channel.resolveAs NoResult .generateReport
  | .activeDrivers => Channel.resolveAs CountResult .activeDrivers
  | .shutService => Channel.resolveAs NoResult .shutService
  | .close => fun _ => .ok ()

namespace Channel

/-- The channel after a call. -/
def next (channel : Channel) (call : Call) : Channel := finalOf (Service.perform call channel)

/-- The channel after calls in order. -/
def after (channel : Channel) : List Call → Channel
  | [] => channel
  | call :: rest => (channel.next call).after rest

/-- Whether a call is issued: only calls of methods are, and only on an open channel that
is not poisoned. -/
def issues (channel : Channel) (call : Call) : Bool :=
  call.method?.isSome && !channel.closed && !channel.poisoned

/-- How many of the calls are issued. -/
def issued (channel : Channel) : List Call → Nat
  | [] => 0
  | call :: rest => (channel.issues call).toNat + (channel.next call).issued rest

/-- Of what arrived, so many whole messages were read and nothing more. -/
def Boundary (stream : Stream) (count : Nat) : Prop :=
  ∃ messages : List Bytes, messages.length = count ∧
    (∀ message ∈ messages, IsMessage message) ∧
    stream.received = messages.flatten ++ stream.unread

theorem finalOf_orGone (act : EStateM Fault Channel Unit) (channel : Channel) :
    finalOf (orGone act channel) = finalOf (act channel) := by
  unfold orGone
  cases act channel with
  | ok _ last => rfl
  | error fault last => cases hgone : fault.isDisconnect <;> simp [hgone, finalOf]

theorem outcomeOf_orGone {act : EStateM Fault Channel Unit} {channel : Channel}
    (h : ∀ fault, outcomeOf (act channel) = .error fault → fault.isDisconnect = false) :
    outcomeOf (orGone act channel) = outcomeOf (act channel) := by
  unfold orGone
  cases hact : act channel with
  | ok _ last => rfl
  | error fault last =>
      rw [hact] at h
      simp [h fault rfl, outcomeOf]

/-- A call of a method that leaves the channel usable reads one whole message. -/
theorem perform_consumes {channel : Channel} {call : Call} {method : Method}
    (hmethod : call.method? = some method) (hclosed : channel.closed = false)
    (hpoisoned : channel.poisoned = false) (hnext : (channel.next call).poisoned = false) :
    ∃ header fields message,
      Consumes method channel (channel.next call) header fields message ∧
        Settles method (channel.sequence + 1) header fields (call.resolve fields)
          (outcomeOf (Service.perform call channel)) := by
  cases call with
  | shutService =>
      cases hmethod
      have hfinal : channel.next .shutService =
          finalOf (Channel.call NoResult .shutService NoArguments.mk channel) :=
        finalOf_orGone _ channel
      rw [hfinal] at hnext ⊢
      obtain ⟨header, fields, message, hconsumes, hsettles⟩ :=
        call_consumes hclosed hpoisoned hnext
      refine ⟨header, fields, message, hconsumes, ?_⟩
      -- Only a disconnect counts as success here, and no message stands for one.
      have hpresent : ∀ fault,
          outcomeOf (Channel.call NoResult .shutService NoArguments.mk channel) = .error fault →
            fault.isDisconnect = false := by
        intro fault hfault
        rw [hfault] at hsettles
        cases hsettles with
        | exception => rfl
      exact (congrArg _ (outcomeOf_orGone hpresent)).mpr hsettles
  | close => cases hmethod
  | _ =>
      cases hmethod
      exact call_consumes hclosed hpoisoned hnext

/-- A method that is called on a closed or poisoned channel does nothing to it. -/
theorem next_of_refused {channel : Channel} {call : Call} (hmethod : call.method?.isSome)
    (h : channel.closed = true ∨ channel.poisoned = true) : channel.next call = channel := by
  cases call with
  | shutService => exact (finalOf_orGone _ channel).trans (call_refused h)
  | close => cases hmethod
  | _ => exact call_refused h

/-- All that closing does to a channel, however it ends. -/
theorem next_close_eq (channel : Channel) :
    ∃ shutdowns, channel.next .close =
      { channel with closed := true, stream := { channel.stream with shutdowns := shutdowns } } := by
  rcases channel with ⟨stream, options, sequence, poisoned, closed⟩
  cases closed with
  | true => exact ⟨stream.shutdowns, rfl⟩
  | false =>
      change ∃ shutdowns, finalOf (orGone shutdown ⟨stream, options, sequence, poisoned, true⟩) = _
      rw [finalOf_orGone]
      rcases stream with ⟨unread, ending, script, received, sent, writeFault, fault, shutdowns⟩
      cases writeFault with
      | some broken => exact ⟨shutdowns, rfl⟩
      | none => cases fault <;> exact ⟨shutdowns + 1, rfl⟩

/-- A poisoned channel stays poisoned. -/
theorem poisoned_next {channel : Channel} (call : Call) (h : channel.poisoned = true) :
    (channel.next call).poisoned = true := by
  cases hmethod : call.method? with
  | some method => rw [next_of_refused (by simp [hmethod]) (.inr h), h]
  | none =>
      cases call with
      | close =>
          obtain ⟨shutdowns, hclose⟩ := next_close_eq channel
          rwa [hclose]
      | _ => cases hmethod

theorem refused_of_not_issues {channel : Channel} {call : Call} (hmethod : call.method?.isSome)
    (h : channel.issues call = false) : channel.closed = true ∨ channel.poisoned = true := by
  simp only [issues, hmethod] at h
  cases hclosed : channel.closed <;> simp_all

/-- A call that is not issued is refused or closes the channel. -/
theorem next_of_not_issues {channel : Channel} {call : Call} (h : channel.issues call = false) :
    ∃ closed shutdowns, channel.next call =
      { channel with closed := closed, stream := { channel.stream with shutdowns := shutdowns } } := by
  cases hmethod : call.method? with
  | some method =>
      have hissued : call.method?.isSome := by simp [hmethod]
      rw [next_of_refused hissued (refused_of_not_issues hissued h)]
      exact ⟨channel.closed, channel.stream.shutdowns, rfl⟩
  | none =>
      cases call with
      | close => exact ⟨true, next_close_eq channel⟩
      | _ => cases hmethod

theorem issues_eq_true {channel : Channel} {call : Call} (h : channel.issues call = true) :
    ∃ method, call.method? = some method ∧ channel.closed = false ∧ channel.poisoned = false := by
  simp only [issues, Bool.and_eq_true, Option.isSome_iff_exists, Bool.not_eq_true'] at h
  obtain ⟨⟨⟨method, hmethod⟩, hclosed⟩, hpoisoned⟩ := h
  exact ⟨method, hmethod, hclosed, hpoisoned⟩

/-- One call: a channel that is usable after it was usable and at a boundary before it,
and is at the next boundary if the call was issued. -/
theorem boundary_next {channel : Channel} {count : Nat} (call : Call)
    (h : channel.poisoned = false → Boundary channel.stream count)
    (hnext : (channel.next call).poisoned = false) :
    Boundary (channel.next call).stream (count + (channel.issues call).toNat) := by
  have hpoisoned : channel.poisoned = false := by
    rw [← Bool.not_eq_true]
    intro hpoisoned
    rw [poisoned_next call hpoisoned] at hnext
    cases hnext
  obtain ⟨messages, hlength, hmessages, hreceived⟩ := h hpoisoned
  cases hissues : channel.issues call with
  | false =>
      obtain ⟨closed, shutdowns, hsame⟩ := next_of_not_issues hissues
      rw [hsame]
      exact ⟨messages, hlength, hmessages, hreceived⟩
  | true =>
      obtain ⟨method, hmethod, hclosed, -⟩ := issues_eq_true hissues
      obtain ⟨header, fields, message, hconsumes, -⟩ :=
        perform_consumes hmethod hclosed hpoisoned hnext
      obtain ⟨arrived, harrived, hmessage⟩ := hconsumes.arrived
      refine ⟨messages ++ [message], by simp [hlength], ?_, ?_⟩
      · intro other hother
        rcases List.mem_append.mp hother with hother | hother
        · exact hmessages other hother
        · rw [List.mem_singleton.mp hother]
          exact ⟨header, fields, hconsumes.encodes⟩
      · rw [harrived, hreceived, List.append_assoc, hmessage]
        simp

/-- Any calls: the boundary moves on by the calls that were issued. -/
theorem boundary_after (calls : List Call) {channel : Channel} {count : Nat}
    (h : channel.poisoned = false → Boundary channel.stream count)
    (hafter : (channel.after calls).poisoned = false) :
    Boundary (channel.after calls).stream (count + channel.issued calls) := by
  induction calls generalizing channel count with
  | nil => exact h hafter
  | cons call rest ih =>
      have hrest := ih (boundary_next call h) hafter
      rwa [Nat.add_assoc] at hrest

/-- Bytes split into a number of messages and a rest in one way only. -/
theorem flatten_unique {first second : List Bytes} {back back' : Bytes}
    (hlength : first.length = second.length)
    (hfirst : ∀ message ∈ first, IsMessage message)
    (hsecond : ∀ message ∈ second, IsMessage message)
    (heq : first.flatten ++ back = second.flatten ++ back') : first = second ∧ back = back' := by
  induction first generalizing second with
  | nil =>
      cases second with
      | nil => exact ⟨rfl, heq⟩
      | cons head tail => cases hlength
  | cons head tail ih =>
      cases second with
      | nil => cases hlength
      | cons head' tail' =>
          rw [List.forall_mem_cons] at hfirst hsecond
          obtain ⟨⟨header, fields, hhead⟩, htail⟩ := hfirst
          obtain ⟨⟨header', fields', hhead'⟩, htail'⟩ := hsecond
          rw [List.flatten_cons, List.flatten_cons, List.append_assoc, List.append_assoc] at heq
          obtain ⟨-, -, rfl, hrest⟩ := hhead.unambiguous hhead' heq
          obtain ⟨rfl, hback⟩ := ih (Nat.succ.inj hlength) htail htail' hrest
          exact ⟨rfl, hback⟩

/-- The one message that was read for a call is a reply with the call's own name and
number, and the answer stands in it. -/
def OwnReply (call : Call) (before after : Channel) (answer : call.Answer) : Prop :=
  ∃ method header fields message, call.method? = some method ∧
    Consumes method before after header fields message ∧ header.kind = .reply ∧
    header.name = method.name ∧ header.sequence = before.sequence + 1 ∧
    call.resolve fields = .ok answer

theorem own_reply {channel last : Channel} {call : Call} {method : Method} {answer : call.Answer}
    (hmethod : call.method? = some method) (h : Service.perform call channel = .ok answer last)
    (husable : channel.closed = false ∧ channel.poisoned = false ∧ last.poisoned = false) :
    OwnReply call channel last answer := by
  have hnext : channel.next call = last := by rw [next, h, finalOf]
  obtain ⟨header, fields, message, hconsumes, hsettles⟩ :=
    perform_consumes hmethod husable.1 husable.2.1 (by rw [hnext]; exact husable.2.2)
  rw [hnext] at hconsumes
  rw [h, outcomeOf] at hsettles
  generalize hresolved : call.resolve fields = resolved at hsettles
  cases hsettles with
  | reply hkind hname hsequence =>
      exact ⟨method, header, fields, message, hmethod, hconsumes, hkind, hname, hsequence,
        hresolved⟩

/-- A method that succeeds on a channel was answered by its own reply, unless it ends the
service and the service went away instead. -/
theorem perform_eq_ok {channel last : Channel} {call : Call} {answer : call.Answer}
    (hmethod : call.method?.isSome) (h : Service.perform call channel = .ok answer last) :
    OwnReply call channel last answer ∨
      call = .shutService ∧ ∃ fault,
        Channel.call NoResult .shutService NoArguments.mk channel = .error fault last ∧
          fault.isDisconnect = true := by
  cases call with
  | shutService =>
      cases hcall : Channel.call NoResult .shutService NoArguments.mk channel with
      | ok value reached =>
          have hsame : Service.perform .shutService channel = .ok value reached := by
            change orGone _ channel = _
            rw [orGone, hcall]
            rfl
          rw [hsame] at h
          cases h
          exact .inl (own_reply rfl hsame (call_eq_ok hcall))
      | error fault reached =>
          change orGone _ channel = _ at h
          rw [orGone, hcall] at h
          cases hgone : fault.isDisconnect with
          | true =>
              simp only [hgone] at h
              cases h
              exact .inr ⟨rfl, fault, rfl, hgone⟩
          | false =>
              simp only [hgone] at h
              cases h
  | close => cases hmethod
  | _ => exact .inl (own_reply rfl h (call_eq_ok h))

/-- After any calls on a fresh channel, whatever arrives and however it fails: a channel
that is not poisoned has read one whole message for each call that was issued, and
nothing more of what arrived; each further call that leaves it usable reads one whole
message; and a call that succeeds is answered by a reply with its own name and number,
unless it ends the service and the service went away instead. -/
theorem boundary_and_own_reply (script : List Reaction) (shutdownFault : Option IoFault)
    (options : ChannelOptions) (calls : List Call) :
    let start := ofStream (.ofScript script shutdownFault) options
    let channel := start.after calls
    (channel.poisoned = false →
      Boundary channel.stream (start.issued calls) ∧
        ∀ (messages : List Bytes) rest, messages.length = start.issued calls →
          (∀ message ∈ messages, IsMessage message) →
          channel.stream.received = messages.flatten ++ rest → rest = channel.stream.unread) ∧
    (∀ call, channel.issues call = true → (channel.next call).poisoned = false →
      ∃ method header fields message, call.method? = some method ∧
        Consumes method channel (channel.next call) header fields message) ∧
    ∀ (call : Call) (answer : call.Answer) (last : Channel), call ≠ .close →
      Service.perform call channel = .ok answer last →
      OwnReply call channel last answer ∨
        call = .shutService ∧ ∃ fault,
          Channel.call NoResult .shutService NoArguments.mk channel = .error fault last ∧
            fault.isDisconnect = true := by
  intro start channel
  refine ⟨fun hpoisoned => ?_, fun call hissues hnext => ?_, fun call answer last hmethod h => ?_⟩
  · have hstart : start.poisoned = false → Boundary start.stream 0 :=
      fun _ => ⟨[], rfl, by simp, rfl⟩
    have hboundary := boundary_after calls hstart hpoisoned
    rw [Nat.zero_add] at hboundary
    refine ⟨hboundary, fun messages rest hlength hmessages hreceived => ?_⟩
    obtain ⟨found, hfound, hwhole, hsplit⟩ := hboundary
    exact (flatten_unique (hlength.trans hfound.symm) hmessages hwhole
      (hreceived.symm.trans hsplit)).2
  · obtain ⟨method, hmethod, hclosed, hpoisoned⟩ := issues_eq_true hissues
    obtain ⟨header, fields, message, hconsumes, -⟩ :=
      perform_consumes hmethod hclosed hpoisoned hnext
    exact ⟨method, header, fields, message, hmethod, hconsumes⟩
  · refine perform_eq_ok ?_ h
    cases call with
    | close => exact absurd rfl hmethod
    | _ => rfl

/-- A call that is answered and one that fails in the service. -/
theorem boundary_and_own_reply_failed_call :
    let script : List Reaction :=
      [.answer fun _ => (Record.message "active_drivers" .reply 1 (CountResult.mk (some 2)), .silent),
        .answer fun _ =>
          (Record.message "active_drivers" .exception 2 (CallFailure.mk none .internalError) ++ [7],
            .closed)]
    let start := ofStream (.ofScript script none) ⟨.ofMillis 10, none, 60⟩
    let channel := start.after [.activeDrivers, .activeDrivers]
    channel.poisoned = false ∧ channel.stream.unread = [7] ∧ Boundary channel.stream 2 := by
  intro script start channel
  have hpoisoned : channel.poisoned = false := by decide +kernel
  have hunread : channel.stream.unread = [7] := by decide +kernel
  have hissued : start.issued [.activeDrivers, .activeDrivers] = 2 := by decide +kernel
  have hboundary := ((boundary_and_own_reply script none ⟨.ofMillis 10, none, 60⟩
    [.activeDrivers, .activeDrivers]).1 hpoisoned).1
  rw [hissued] at hboundary
  exact ⟨hpoisoned, hunread, hboundary⟩

end Channel

end BrowserBridge
