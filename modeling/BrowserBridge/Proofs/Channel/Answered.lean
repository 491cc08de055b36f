import BrowserBridge.Proofs.Channel.Mismatch

/-!
Messages that answer a call.  A call comes to what its own reply says, and to a failure of
the call layer if one is sent instead; either way exactly that message is taken off the
stream.  A failure lets the channel go on unless it has a kind that a mismatched message
has, and the next call is then answered by what follows.
-/

namespace BrowserBridge

open Wire

/-- Every kind but the unknown one has one code only. -/
theorem CallFailureKind.ofCode_eq_iff (code : Int32) {kind : CallFailureKind}
    (hkind : kind ≠ .unknown) : ofCode code = kind ↔ code = kind.code := by
  constructor
  · intro h
    apply Int32.toInt.inj
    unfold ofCode at h
    split at h <;> subst h
    all_goals first | assumption | exact absurd rfl hkind
  · rintro rfl
    exact ofCode_code kind

namespace Channel

section

variable {α : Type} [Record α]

/-- A record whose struct is taken off a reader is read off the fields or refused; the
struct is gone in both cases. -/
theorem read_of_takes {fields : Fields} {bytes : Bytes} {reader after : Reader}
    (hstruct : Encodes .struct (.struct fields) bytes)
    (hheight : (Tree.struct fields).height ≤ maxDepth) (htakes : reader.Takes bytes after) :
    (Record.read : Read α) reader =
      match (Record.ofFields fields : Except Malformed α) with
      | .ok record => .ok record after
      | .error cause => .error (.malformed cause) after := by
  have hread : Wire.struct reader = .ok fields after :=
    (exact_struct reader fields after).mpr ⟨bytes, ⟨hstruct, hheight⟩, htakes⟩
  unfold Record.read
  rw [bind_of_ok hread]
  cases (Record.ofFields fields : Except Malformed α) <;> rfl

variable {header : Header} {fields : Fields} {message : Bytes} {limit : Nat}

theorem takes_ofBytes (back : Bytes) (ending : Ending) (hlimit : message.length ≤ limit) :
    Reader.Takes (.ofBytes (message ++ back) ending limit) message
      ⟨back, ending, message.length, limit⟩ :=
  ⟨rfl, hlimit, (Nat.zero_add _).symm, rfl, rfl⟩

variable (α) in
/-- Behind the header of a message stands its struct, and the rest behind that. -/
theorem answer_of_message (method : Method) (sequence : Int32) (back : Bytes) (ending : Ending)
    (hmessage : EncodesMessage header fields message)
    (hlimit : message.length ≤ limit) :
    ∃ body middle, Encodes .struct (.struct fields) body ∧
      middle.Takes body ⟨back, ending, message.length, limit⟩ ∧
      answer α method sequence (.ofBytes (message ++ back) ending limit) =
        answerRest α method sequence header middle := by
  obtain ⟨front, body, hheader, hstruct, rfl⟩ := hmessage
  obtain ⟨middle, hfront, hback⟩ :=
    Reader.Takes.append_iff.mp (takes_ofBytes back ending hlimit)
  have hread : Wire.header (.ofBytes (front ++ body ++ back) ending limit) = .ok header middle :=
    header_eq_ok_iff.mpr ⟨front, hheader, hfront⟩
  exact ⟨body, middle, hstruct, hback, bind_of_ok hread⟩

/-- The reply to a call is read off its fields or refused. -/
theorem answer_of_reply {method : Method} {sequence : Int32} (back : Bytes) (ending : Ending)
    (hmessage : EncodesMessage ⟨method.name, .reply, sequence⟩ fields message)
    (hheight : (Tree.struct fields).height ≤ maxDepth) (hlimit : message.length ≤ limit) :
    answer α method sequence (.ofBytes (message ++ back) ending limit) =
      match (Record.ofFields fields : Except Malformed α) with
      | .ok record => .ok (.ok record) ⟨back, ending, message.length, limit⟩
      | .error cause => .error (.malformed cause) ⟨back, ending, message.length, limit⟩ := by
  obtain ⟨body, middle, hstruct, htakes, hanswer⟩ :=
    answer_of_message α method sequence back ending hmessage hlimit
  have hown : checkReply method sequence ⟨method.name, .reply, sequence⟩ = .ok () :=
    checkReply_eq_ok_iff.mpr ⟨rfl, rfl⟩
  have hrest : answerRest α method sequence ⟨method.name, .reply, sequence⟩ =
      Record.read >>= fun record : α => pure (.ok record) := by
    change (Record.read >>= fun record : α => pure ((checkReply method sequence
      ⟨method.name, .reply, sequence⟩).map fun _ => record)) = _
    rw [hown]
    rfl
  have hread := read_of_takes (α := α) hstruct hheight htakes
  rw [hanswer, hrest]
  cases hrecord : (Record.ofFields fields : Except Malformed α) with
  | ok record =>
      rw [hrecord] at hread
      exact bind_of_ok hread
  | error cause =>
      rw [hrecord] at hread
      exact bind_of_error hread

/-- A failure of the call layer is the outcome, whatever its name and number. -/
theorem answer_of_failure {failure : CallFailure} (method : Method) (sequence : Int32)
    (back : Bytes) (ending : Ending) (hkind : header.kind = .exception)
    (hmessage : EncodesMessage header fields message)
    (hheight : (Tree.struct fields).height ≤ maxDepth) (hlimit : message.length ≤ limit)
    (hrecord : Record.ofFields fields = .ok failure) :
    answer α method sequence (.ofBytes (message ++ back) ending limit) =
      .ok (.error (failure.toFault method.name)) ⟨back, ending, message.length, limit⟩ := by
  obtain ⟨front, body, hheader, hstruct, rfl⟩ := hmessage
  exact answer_eq_ok_iff.mpr ⟨header, front, body, hheader,
    .exception hkind hrecord hstruct hheight, takes_ofBytes back ending hlimit⟩

end

section

variable {α ρ : Type} [Record α] [Reply ρ] {method : Method} {arguments : α} {before : Channel}
  {stream : Stream} {header : Header} {fields : Fields} {message back : Bytes}

variable (hclosed : before.closed = false) (hpoisoned : before.poisoned = false)

include hclosed hpoisoned

section

variable
  (hsend : Stream.send (Record.message method.name .call (before.sequence + 1) arguments)
    before.stream = .ok () stream)
  (hmessage : EncodesMessage ⟨method.name, .reply, before.sequence + 1⟩ fields message)
  (hunread : stream.unread = message ++ back)
  (hheight : (Tree.struct fields).height ≤ maxDepth)
  (hlimit : message.length ≤ before.options.messageLimit)

include hsend hmessage hunread hheight hlimit

/-- A call whose own reply comes next ends with the record in it. -/
theorem call_of_record {record : ρ} (hrecord : Record.ofFields fields = .ok record) :
    call ρ method arguments before = conclude method (.ok record) (before.moved stream back) := by
  have hanswer := answer_of_reply (α := ρ) back stream.ending hmessage hheight hlimit
  rw [← hunread, hrecord] at hanswer
  exact call_of_answer_ok hclosed hpoisoned hsend hanswer

/-- A call whose own reply comes next has what the reply resolves to for its outcome. -/
theorem call_of_reply :
    outcomeOf (call ρ method arguments before) = resolveAs ρ method fields ∧
      (finalOf (call ρ method arguments before)).stream = { stream with unread := back } := by
  cases hrecord : (Record.ofFields fields : Except Malformed ρ) with
  | ok record =>
      obtain ⟨hfinal, houtcome⟩ := conclude_ok method record (before.moved stream back)
      rw [call_of_record hclosed hpoisoned hsend hmessage hunread hheight hlimit hrecord, hfinal,
        houtcome, resolveAs_of_ofFields hrecord]
      exact ⟨rfl, rfl⟩
  | error cause =>
      have hanswer := answer_of_reply (α := ρ) back stream.ending hmessage hheight hlimit
      rw [← hunread, hrecord] at hanswer
      rw [call_of_answer_error hclosed hpoisoned hsend hanswer, resolveAs, hrecord]
      exact ⟨rfl, rfl⟩

end

/-- A call that a failure of the call layer arrives for fails with it. -/
theorem call_of_failure {failure : CallFailure}
    (hsend : Stream.send (Record.message method.name .call (before.sequence + 1) arguments)
      before.stream = .ok () stream)
    (hkind : header.kind = .exception) (hmessage : EncodesMessage header fields message)
    (hunread : stream.unread = message ++ back)
    (hheight : (Tree.struct fields).height ≤ maxDepth)
    (hlimit : message.length ≤ before.options.messageLimit)
    (hrecord : Record.ofFields fields = .ok failure) :
    call ρ method arguments before = .error (failure.toFault method.name)
      { before.moved stream back with poisoned := poisons (failure.toFault method.name) } := by
  have hanswer := answer_of_failure (α := ρ) method (before.sequence + 1) back stream.ending
    hkind hmessage hheight hlimit hrecord
  rw [← hunread] at hanswer
  exact call_of_answer_ok hclosed hpoisoned hsend hanswer

end

/-- A call whose own reply comes next is answered by it, and nothing more is read. -/
theorem perform_of_reply {call : Call} {method : Method} {channel : Channel} {stream : Stream}
    {fields : Fields} {message back : Bytes} (hmethod : call.method? = some method)
    (hclosed : channel.closed = false) (hpoisoned : channel.poisoned = false)
    (hsend : Stream.send (call.request (channel.sequence + 1)) channel.stream = .ok () stream)
    (hmessage : EncodesMessage ⟨method.name, .reply, channel.sequence + 1⟩ fields message)
    (hunread : stream.unread = message ++ back)
    (hheight : (Tree.struct fields).height ≤ maxDepth)
    (hlimit : message.length ≤ channel.options.messageLimit) :
    outcomeOf (Service.perform call channel) = call.resolve fields ∧
      (channel.next call).stream = { stream with unread := back } := by
  cases call with
  | close => cases hmethod
  | shutService =>
      cases hmethod
      obtain ⟨houtcome, hstream⟩ :=
        call_of_reply (ρ := NoResult) hclosed hpoisoned hsend hmessage hunread hheight hlimit
      -- The reply of this method says nothing, so nothing in it stands for a disconnect.
      have hdone : resolveAs NoResult .shutService fields = .ok () := rfl
      refine ⟨(outcomeOf_orGone fun fault hfault => ?_).trans houtcome,
        (congrArg Channel.stream (finalOf_orGone _ channel)).trans hstream⟩
      rw [houtcome, hdone] at hfault
      cases hfault
  | _ =>
      cases hmethod
      exact call_of_reply hclosed hpoisoned hsend hmessage hunread hheight hlimit

theorem perform_of_failure {call : Call} {method : Method} {channel : Channel} {stream : Stream}
    {header : Header} {fields : Fields} {failure : CallFailure} {message back : Bytes}
    (hmethod : call.method? = some method) (hclosed : channel.closed = false)
    (hpoisoned : channel.poisoned = false)
    (hsend : Stream.send (call.request (channel.sequence + 1)) channel.stream = .ok () stream)
    (hkind : header.kind = .exception) (hmessage : EncodesMessage header fields message)
    (hunread : stream.unread = message ++ back)
    (hheight : (Tree.struct fields).height ≤ maxDepth)
    (hlimit : message.length ≤ channel.options.messageLimit)
    (hrecord : Record.ofFields fields = .ok failure) :
    Service.perform call channel = .error (failure.toFault method.name)
      { channel.moved stream back with poisoned := poisons (failure.toFault method.name) } := by
  cases call with
  | close => cases hmethod
  | shutService =>
      cases hmethod
      change orGone (Channel.call NoResult .shutService NoArguments.mk) channel = _
      rw [orGone, call_of_failure hclosed hpoisoned hsend hkind hmessage hunread hheight hlimit
        hrecord]
      rfl
  | _ =>
      cases hmethod
      exact call_of_failure hclosed hpoisoned hsend hkind hmessage hunread hheight hlimit hrecord

/-- The next call of a method is issued, and it is answered by its own reply if that comes
next. -/
def AnswersNext (channel : Channel) (call : Call) : Prop :=
  channel.issues call = true ∧
    ∀ (method : Method) (stream : Stream) (fields : Fields) (message back : Bytes),
      call.method? = some method →
      Stream.send (call.request (channel.sequence + 1)) channel.stream = .ok () stream →
      EncodesMessage ⟨method.name, .reply, channel.sequence + 1⟩ fields message →
      stream.unread = message ++ back → (Tree.struct fields).height ≤ maxDepth →
      message.length ≤ channel.options.messageLimit →
      outcomeOf (Service.perform call channel) = call.resolve fields ∧
        (channel.next call).stream = { stream with unread := back }

theorem answersNext_of_usable {channel : Channel} {call : Call} (hmethod : call.method?.isSome)
    (hclosed : channel.closed = false) (hpoisoned : channel.poisoned = false) :
    channel.AnswersNext call := by
  refine ⟨by simp [issues, hmethod, hclosed, hpoisoned], ?_⟩
  intro method stream fields message back hsome hsend hmessage hunread hheight hlimit
  exact perform_of_reply hsome hclosed hpoisoned hsend hmessage hunread hheight hlimit

/-- Which codes of a failure let a channel go on; no code is as good as code 0. -/
theorem poisons_ofCode_eq_false_iff (text : Option String) (code : Option Int32)
    (method : String) :
    poisons (CallFailure.toFault ⟨text, .ofCode (code.getD 0)⟩ method) = false ↔
      code ≠ some 2 ∧ code ≠ some 3 ∧ code ≠ some 4 := by
  rw [poisons_callFailure_eq_false_iff]
  have honly := @CallFailureKind.ofCode_eq_iff (code.getD 0)
  rw [ne_eq, ne_eq, ne_eq, honly (by decide), honly (by decide), honly (by decide)]
  cases code with
  | none => decide
  | some code => simp [CallFailureKind.code]

/-- Precisely when a failure of the call layer lets the channel go on.  The call always
fails with the failure's text and the kind of its code, and the failure is taken off the
stream.  The channel stays usable unless the code is one of those that stand for a
mismatched message, and the next call is then issued and answered by what follows. -/
theorem usable_after_call_failure_iff (call : Call) (channel : Channel) {method : Method}
    {stream : Stream} {fields : Fields} {message back : Bytes} {text : Option String}
    {code : Option Int32} (hmethod : call.method? = some method)
    (hclosed : channel.closed = false) (hpoisoned : channel.poisoned = false)
    (hsend : Stream.send (call.request (channel.sequence + 1)) channel.stream = .ok () stream)
    (hmessage : EncodesMessage ⟨method.name, .exception, channel.sequence + 1⟩ fields message)
    (hunread : stream.unread = message ++ back)
    (hheight : (Tree.struct fields).height ≤ maxDepth)
    (hlimit : message.length ≤ channel.options.messageLimit)
    (htext : fields.text? 1 = .ok text) (hcode : fields.i32? 2 = code) :
    let last := channel.next call
    Service.perform call channel =
        .error (.application method.name (.ofCode (code.getD 0)) (text.getD "")) last ∧
      last = { channel.moved stream back with poisoned := last.poisoned } ∧
      (last.poisoned = false ↔ code ≠ some 2 ∧ code ≠ some 3 ∧ code ≠ some 4) ∧
      (last.poisoned = false → ∀ later : Call, later.method?.isSome → last.AnswersNext later) := by
  intro last
  have hrecord : (Record.ofFields fields : Except Malformed CallFailure) =
      .ok ⟨text, .ofCode (code.getD 0)⟩ := by
    simp only [Record.ofFields]
    rw [htext, hcode]
    rfl
  have hfails := perform_of_failure hmethod hclosed hpoisoned hsend rfl hmessage hunread hheight
    hlimit hrecord
  have hlast : last = { channel.moved stream back with
      poisoned := poisons (CallFailure.toFault ⟨text, .ofCode (code.getD 0)⟩ method.name) } := by
    change finalOf (Service.perform call channel) = _
    rw [hfails, finalOf]
  refine ⟨by rw [hlast]; exact hfails, by rw [hlast], ?_, ?_⟩
  · rw [hlast]
    exact poisons_ofCode_eq_false_iff text code method.name
  · intro husable later hlater
    have hopen : last.closed = false := by rw [hlast]; exact hclosed
    exact answersNext_of_usable hlater hopen husable

/-- A failure with a code that no kind has. -/
def unknownFailure : List (Piece 1) := [.text 1 (some "kaput"), .int32 2 (some 99)]

/-- It is answered by the failure, and the call after it by its reply. -/
theorem usable_after_unknown_failure :
    let failure := Encode.header "generate_report" .exception 1 ++ Piece.bodyOf unknownFailure
    let reply := Record.message "active_drivers" .reply 2 (CountResult.mk (some 3))
    let channel := ofStream (.ofScript [.answer fun _ => (failure, .silent),
      .answer fun _ => (reply ++ [7], .silent)] none) ⟨.ofMillis 10000, none, 100⟩
    let last := channel.next (.generateReport "out")
    last.poisoned = false ∧ outcomeOf (Service.perform .activeDrivers last) = .ok (3 : Int32) := by
  intro failure reply channel last
  have hsend : Stream.send (Call.request (.generateReport "out") (channel.sequence + 1))
      channel.stream = .ok () _ := rfl
  have hfailure : EncodesMessage ⟨"generate_report", .exception, 1⟩
      (Piece.fieldsOf unknownFailure) failure :=
    ⟨_, _, Message.encodes_header (by decide), Piece.encodes_body _ (by decide), rfl⟩
  obtain ⟨-, hlast, hiff, hnext⟩ :=
    usable_after_call_failure_iff (.generateReport "out") channel rfl rfl rfl hsend hfailure
      (List.append_nil _).symm (by decide) (by decide)
      (Fields.text?_of_last? (some "kaput") (by simp [unknownFailure]))
      (Fields.i32?_of_last? (some 99) (by simp [unknownFailure]))
  have husable : last.poisoned = false := hiff.mpr ⟨by decide, by decide, by decide⟩
  refine ⟨husable, ?_⟩
  have hanswers : last.AnswersNext .activeDrivers := hnext husable .activeDrivers rfl
  change last = { channel.moved _ [] with poisoned := last.poisoned } at hlast
  rw [husable] at hlast
  rw [hlast] at hanswers ⊢
  have hown := hanswers.2 .activeDrivers _ _ reply [7] rfl rfl
    (Message.encodes ⟨⟨"active_drivers", .reply, 2⟩, .countResult, ⟨some 3⟩⟩ (by decide)) rfl
    (by decide) (by decide)
  rw [hown.1]
  rfl

/-- A failure with which the service reports a number out of sequence. -/
def sequenceFailure : Message :=
  ⟨⟨"active_drivers", .exception, 1⟩, .callFailure, ⟨some "late", .badSequenceId⟩⟩

/-- So not every failure of the call layer lets the channel go on. -/
theorem call_failure_not_always_usable :
    ¬ ∀ (call : Call) (channel : Channel) (method : Method) (stream : Stream) (fields : Fields)
      (message back : Bytes) (text : Option String) (code : Option Int32),
      call.method? = some method → channel.closed = false → channel.poisoned = false →
      Stream.send (call.request (channel.sequence + 1)) channel.stream = .ok () stream →
      EncodesMessage ⟨method.name, .exception, channel.sequence + 1⟩ fields message →
      stream.unread = message ++ back → (Tree.struct fields).height ≤ maxDepth →
      message.length ≤ channel.options.messageLimit → fields.text? 1 = .ok text →
      fields.i32? 2 = code → (channel.next call).poisoned = false := by
  intro h
  let channel := ofStream (.ofScript [.answer fun _ => (sequenceFailure.bytes, .silent)] none)
    ⟨.ofMillis 10000, none, 100⟩
  have husable := h .activeDrivers channel _ _ _ _ _ (some "late") (some 4) rfl rfl rfl rfl
    (sequenceFailure.encodes (by decide)) (List.append_nil _).symm (by decide) (by decide)
    (Fields.text?_of_last? (some "late") rfl) (Fields.i32?_of_last? (some 4) rfl)
  have hpoisoned : (channel.next .activeDrivers).poisoned = true := by decide +kernel
  rw [hpoisoned] at husable
  cases husable

end Channel

end BrowserBridge
