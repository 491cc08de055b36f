import BrowserBridge.Proofs.Channel.Run
import BrowserBridge.Proofs.Wire.Tighten

/-!
Messages that answer another call.  Their name or their number is not that of the call,
and the call that reads one always fails.  A reply of this kind poisons the channel.  A
failure of the call layer is not compared with the call at all, so it poisons the
channel only if it cannot be read or says itself that it is a mismatch.
-/

namespace BrowserBridge

open Wire

/-- The request that a call sends under a number. -/
def Call.request (call : Call) (sequence : Int32) : Bytes :=
  match call with
  | .attach hub =>
    Record.message Method.attach.name .call sequence (InitializeArguments.mk (some hub))
  | .execute session command params =>
    Record.message Method.execute.name .call sequence
      (ExecuteArguments.mk session (some command) (some params))
  | .checkLayout test session specs included excluded =>
    Record.message Method.checkLayout.name .call sequence
      (LayoutArguments.mk (some test) (some session) (some specs) included excluded)
  | .generateReport folder =>
    Record.message Method.generateReport.name .call sequence (ReportArguments.mk (some folder))
  | .activeDrivers => Record.message Method.activeDrivers.name .call sequence NoArguments.mk
  | .shutService => Record.message Method.shutService.name .call sequence NoArguments.mk
  | .close => []

namespace Channel

section

variable {α : Type} [Record α]

/-- A record whose struct has arrived is read or refused. -/
theorem read_arrived {β : Type} (next : α → β) {fields : Fields} {bytes back : Bytes}
    {reader : Reader} (hstruct : Encodes .struct (.struct fields) bytes)
    (hrest : reader.rest = bytes ++ back) :
    (∃ b after, (do return next (← Record.read) : Read β) reader = .ok b after) ∨
      ∃ cause stopped,
        (do return next (← Record.read) : Read β) reader = .error (.malformed cause) stopped := by
  have hread : (∃ a after, (Record.read : Read α) reader = .ok a after) ∨
      ∃ cause stopped, (Record.read : Read α) reader = .error (.malformed cause) stopped := by
    unfold Record.read
    rcases struct_arrived hstruct hrest with ⟨after, hok, -⟩ | ⟨cause, stopped, herror⟩
    · rw [bind_of_ok hok]
      cases (Record.ofFields fields : Except Malformed α) with
      | ok record => exact .inl ⟨record, after, rfl⟩
      | error cause => exact .inr ⟨cause, after, rfl⟩
    · exact .inr ⟨cause, stopped, bind_of_error herror⟩
  rcases hread with ⟨a, after, hok⟩ | ⟨cause, stopped, herror⟩
  · exact .inl ⟨next a, after, bind_of_ok hok⟩
  · exact .inr ⟨cause, stopped, bind_of_error herror⟩

/-- A reply or a failure that has arrived is read or refused. -/
theorem answer_arrived {method : Method} {sequence : Int32} {header : Header} {fields : Fields}
    {message back : Bytes} {reader : Reader} (hmessage : EncodesMessage header fields message)
    (hrest : reader.rest = message ++ back)
    (hkind : header.kind = .reply ∨ header.kind = .exception) :
    (∃ outcome after, answer α method sequence reader = .ok outcome after) ∨
      ∃ cause stopped, answer α method sequence reader = .error (.malformed cause) stopped := by
  have hanswer : answer α method sequence reader =
      (Wire.header >>= answerRest α method sequence) reader := rfl
  obtain ⟨front, body, hheader, hstruct, rfl⟩ := hmessage
  rw [List.append_assoc] at hrest
  rw [hanswer]
  rcases header_arrived hheader hrest with ⟨middle, hread, hmiddle⟩ | ⟨cause, stopped, hread⟩
  · rw [bind_of_ok hread, answerRest]
    rcases hkind with hreply | hexception
    · rw [hreply]
      exact read_arrived _ hstruct hmiddle
    · rw [hexception]
      exact read_arrived _ hstruct hmiddle
  · exact .inr ⟨cause, stopped, bind_of_error hread⟩

/-- What a call comes to that a message of another call arrives for. -/
theorem answers_mismatch {method : Method} {sequence : Int32} {header : Header} {fields : Fields}
    {message back : Bytes} {reader after : Reader} {outcome : Except Fault α}
    (hmessage : EncodesMessage header fields message) (hrest : reader.rest = message ++ back)
    (hkind : header.kind = .reply ∨ header.kind = .exception)
    (hmismatch : header.name ≠ method.name ∨ header.sequence ≠ sequence)
    (h : answer α method sequence reader = .ok outcome after) :
    ∃ fault, outcome = .error fault ∧ fault.isDisconnect = false ∧
      message.length ≤ reader.limit ∧ (Tree.struct fields).height ≤ maxDepth ∧
      ((header.kind = .reply ∧ poisons fault = true) ∨
        (header.kind = .exception ∧ ∃ failure : CallFailure,
          Record.ofFields fields = .ok failure ∧ fault = failure.toFault method.name)) := by
  obtain ⟨found, front, bytes, hfound, hanswers, htakes⟩ := answer_eq_ok_iff.mp h
  obtain ⟨head, body, hheader, hstruct, rfl⟩ := hmessage
  have hsplit : front ++ (bytes ++ after.rest) = head ++ (body ++ back) := by
    rw [← List.append_assoc, ← List.append_assoc, ← htakes.rest, ← hrest]
  obtain ⟨rfl, rfl, hbehind⟩ := exact_header.unambiguous hfound hheader hsplit
  cases hanswers with
  | reply hreply hrecord hbody hheight =>
      obtain ⟨hfields, rfl, -⟩ := hbody.unambiguous hstruct hbehind
      cases hfields
      cases hcheck : checkReply method sequence found with
      | error fault =>
          obtain ⟨hpoisons, hpresent⟩ := checkReply_error hcheck
          exact ⟨fault, rfl, hpresent, htakes.room, hheight, .inl ⟨hreply, hpoisons⟩⟩
      | ok _ =>
          obtain ⟨hname, hsequence⟩ := checkReply_eq_ok_iff.mp hcheck
          rcases hmismatch with hother | hother
          · exact absurd hname hother
          · exact absurd hsequence hother
  | exception hexception hrecord hbody hheight =>
      obtain ⟨hfields, rfl, -⟩ := hbody.unambiguous hstruct hbehind
      cases hfields
      exact ⟨_, rfl, rfl, htakes.room, hheight, .inr ⟨hexception, _, hrecord, rfl⟩⟩
  | unexpected hreply hexception =>
      rcases hkind with hsame | hsame
      · exact absurd hsame hreply
      · exact absurd hsame hexception

end

/-- Whether the failures of the call layer of this kind let a channel go on. -/
theorem poisons_callFailure_eq_false_iff (failure : CallFailure) (method : String) :
    poisons (failure.toFault method) = false ↔
      failure.kind ≠ .invalidMessageType ∧ failure.kind ≠ .wrongMethodName ∧
        failure.kind ≠ .badSequenceId := by
  rcases failure with ⟨message, kind⟩
  cases kind <;> simp [CallFailure.toFault, poisons]

/-- When a failure of the call layer is read and lets the channel go on. -/
structure Harmless (limit : Nat) (header : Header) (fields : Fields) (message : Bytes) : Prop where
  kind : header.kind = .exception
  length_le : message.length ≤ limit
  height_le : (Tree.struct fields).height ≤ maxDepth
  failure : ∃ failure : CallFailure, Record.ofFields fields = .ok failure ∧
    failure.kind ≠ .invalidMessageType ∧ failure.kind ≠ .wrongMethodName ∧
      failure.kind ≠ .badSequenceId

/-- A harmless failure that has arrived is not refused. -/
theorem Harmless.answer_eq_ok {ρ : Type} [Record ρ] {method : Method} {sequence : Int32}
    {header : Header} {fields : Fields} {message back : Bytes} {ending : Ending} {limit : Nat}
    (h : Harmless limit header fields message) (hmessage : EncodesMessage header fields message) :
    ∃ outcome after,
      answer ρ method sequence (.ofBytes (message ++ back) ending limit) = .ok outcome after := by
  obtain ⟨front, body, hheader, hstruct, rfl⟩ := hmessage
  obtain ⟨failure, hrecord, -⟩ := h.failure
  refine ⟨_, ⟨back, ending, (front ++ body).length, limit⟩, answer_eq_ok_iff.mpr
    ⟨header, front, body, hheader, .exception h.kind hrecord hstruct h.height_le, rfl,
      h.length_le, (Nat.zero_add _).symm, rfl, rfl⟩⟩

/-- A run fails although the peer is there, and it leaves the channel usable precisely if
the condition holds. -/
def FailsPresent {α : Type} (run : EStateM.Result Fault Channel α) (condition : Prop) : Prop :=
  ∃ fault last, run = .error fault last ∧ fault.isDisconnect = false ∧
    (last.poisoned = false ↔ condition)

theorem FailsPresent.orGone {act : EStateM Fault Channel Unit} {channel : Channel}
    {condition : Prop} (h : FailsPresent (act channel) condition) :
    FailsPresent (orGone act channel) condition := by
  obtain ⟨fault, last, hact, hpresent, hiff⟩ := h
  refine ⟨fault, last, ?_, hpresent, hiff⟩
  rw [Channel.orGone, hact]
  simp [hpresent]

/-- A call for which a message of another call arrives fails, and it is known when it lets
the channel go on. -/
theorem call_mismatch {α ρ : Type} [Record α] [Reply ρ] {method : Method} {arguments : α}
    {before : Channel} {stream : Stream} {header : Header} {fields : Fields}
    {message back : Bytes} (hclosed : before.closed = false) (hpoisoned : before.poisoned = false)
    (hsend : Stream.send (Record.message method.name .call (before.sequence + 1) arguments)
      before.stream = .ok () stream)
    (hmessage : EncodesMessage header fields message) (hunread : stream.unread = message ++ back)
    (hkind : header.kind = .reply ∨ header.kind = .exception)
    (hmismatch : header.name ≠ method.name ∨ header.sequence ≠ before.sequence + 1) :
    FailsPresent (call ρ method arguments before)
      (Harmless before.options.messageLimit header fields message) := by
  have hrest : (Reader.ofBytes stream.unread stream.ending before.options.messageLimit).rest =
      message ++ back := hunread
  rcases answer_arrived (α := ρ) hmessage hrest hkind with
    ⟨outcome, after, hanswer⟩ | ⟨cause, stopped, hanswer⟩
  · obtain ⟨fault, rfl, hpresent, hlength, hheight, hread⟩ :=
      answers_mismatch hmessage hrest hkind hmismatch hanswer
    refine ⟨fault, _, call_of_answer_ok hclosed hpoisoned hsend hanswer, hpresent, ?_⟩
    change poisons fault = false ↔ _
    rcases hread with ⟨hreply, hpoisons⟩ | ⟨hexception, failure, hrecord, rfl⟩
    · rw [hpoisons]
      constructor
      · intro h
        cases h
      · intro h
        rw [h.kind] at hreply
        cases hreply
    · rw [poisons_callFailure_eq_false_iff]
      constructor
      · intro h
        exact ⟨hexception, hlength, hheight, failure, hrecord, h⟩
      · intro h
        obtain ⟨other, hother, hharmless⟩ := h.failure
        rw [hrecord] at hother
        cases hother
        exact hharmless
  · -- The message was refused, which a harmless one is not.
    refine ⟨_, _, call_of_answer_error hclosed hpoisoned hsend hanswer, rfl, ?_⟩
    constructor
    · intro h
      cases h
    · intro h
      obtain ⟨outcome, after, hok⟩ := h.answer_eq_ok (ρ := ρ) hmessage
      rw [← hunread, hanswer] at hok
      cases hok

theorem perform_mismatch {call : Call} {method : Method} {channel : Channel} {stream : Stream}
    {header : Header} {fields : Fields} {message back : Bytes}
    (hmethod : call.method? = some method) (hclosed : channel.closed = false)
    (hpoisoned : channel.poisoned = false)
    (hsend : Stream.send (call.request (channel.sequence + 1)) channel.stream = .ok () stream)
    (hmessage : EncodesMessage header fields message) (hunread : stream.unread = message ++ back)
    (hkind : header.kind = .reply ∨ header.kind = .exception)
    (hmismatch : header.name ≠ method.name ∨ header.sequence ≠ channel.sequence + 1) :
    FailsPresent (Service.perform call channel)
      (Harmless channel.options.messageLimit header fields message) := by
  cases call with
  | close => cases hmethod
  | shutService =>
      cases hmethod
      exact (call_mismatch hclosed hpoisoned hsend hmessage hunread hkind hmismatch).orGone
  | _ =>
      cases hmethod
      exact call_mismatch hclosed hpoisoned hsend hmessage hunread hkind hmismatch

/-- Precisely when a message that answers another call lets a channel go on.  The call
fails either way.  A reply never does, and a failure of the call layer does whenever it
can be read and does not say itself that it is a mismatch. -/
theorem usable_after_mismatch_iff (call : Call) (channel : Channel) {method : Method}
    {stream : Stream} {header : Header} {fields : Fields} {message back : Bytes}
    (hmethod : call.method? = some method) (hclosed : channel.closed = false)
    (hpoisoned : channel.poisoned = false)
    (hsend : Stream.send (call.request (channel.sequence + 1)) channel.stream = .ok () stream)
    (hmessage : EncodesMessage header fields message) (hunread : stream.unread = message ++ back)
    (hkind : header.kind = .reply ∨ header.kind = .exception)
    (hmismatch : header.name ≠ method.name ∨ header.sequence ≠ channel.sequence + 1) :
    (∃ fault, Service.perform call channel = .error fault (channel.next call)) ∧
      ((channel.next call).poisoned = false ↔
        Harmless channel.options.messageLimit header fields message) := by
  obtain ⟨fault, last, hfails, -, hiff⟩ :=
    perform_mismatch hmethod hclosed hpoisoned hsend hmessage hunread hkind hmismatch
  have hnext : channel.next call = last := by rw [next, hfails, finalOf]
  rw [hnext]
  exact ⟨⟨fault, hfails⟩, hiff⟩

/-- A failure that was sent for another call. -/
def staleFailure : Message :=
  ⟨⟨"active_drivers", .exception, 101⟩, .callFailure, ⟨some "stale", .internalError⟩⟩

/-- A fresh channel on which a stale failure answers the first request. -/
def staleChannel : Channel :=
  ofStream (.ofScript [.answer fun _ => (staleFailure.bytes, .silent)] none)
    ⟨.ofMillis 10000, none, 100⟩

/-- The stale failure lets the channel go on: it can be read and reports another kind. -/
theorem usable_after_stale_failure :
    (staleChannel.next .activeDrivers).poisoned = false := by
  have hsend : Stream.send (Call.request .activeDrivers (staleChannel.sequence + 1))
      staleChannel.stream = .ok () _ := rfl
  have hiff := usable_after_mismatch_iff .activeDrivers staleChannel rfl rfl rfl hsend
    (staleFailure.encodes (by decide)) (List.append_nil _).symm (.inr rfl) (.inr (by decide))
  exact hiff.2.mpr ⟨rfl, by decide, by decide, _, LawfulRecord.ofFields_eq staleFailure.content,
    by decide⟩

/-- So not every message that answers another call poisons the channel. -/
theorem mismatch_not_always_poisoning :
    ¬ ∀ (call : Call) (channel : Channel) (method : Method) (stream : Stream) (header : Header)
      (fields : Fields) (message back : Bytes), call.method? = some method →
      channel.closed = false → channel.poisoned = false →
      Stream.send (call.request (channel.sequence + 1)) channel.stream = .ok () stream →
      EncodesMessage header fields message → stream.unread = message ++ back →
      header.kind = .reply ∨ header.kind = .exception →
      header.name ≠ method.name ∨ header.sequence ≠ channel.sequence + 1 →
      (∃ fault, Service.perform call channel = .error fault (channel.next call)) ∧
        (channel.next call).poisoned = true := by
  intro h
  have hpoisoned := (h .activeDrivers staleChannel _ _ _ _ _ _ rfl rfl rfl rfl
    (staleFailure.encodes (by decide)) (List.append_nil _).symm (.inr rfl) (.inr (by decide))).2
  have husable : (staleChannel.next .activeDrivers).poisoned = false := by decide +kernel
  rw [husable] at hpoisoned
  cases hpoisoned

end Channel

end BrowserBridge
