import BrowserBridge.Channel.Basic
import BrowserBridge.Proofs.Message.RoundTrip

/-!
What one call does to a channel.  Unless it poisons the channel, it reads one whole
message, and that message is its own reply or a failure of the call layer.
-/

namespace BrowserBridge.Stream

/-- The stream after a request, however much of it goes out. -/
def writing (stream : Stream) (request : Bytes) : Stream :=
  match send request stream with
  | .ok _ last => last
  | .error _ last => last

theorem writing_of_ok {request : Bytes} {before after : Stream}
    (h : send request before = .ok () after) : before.writing request = after := by
  rw [writing, h]

theorem writing_of_error {request : Bytes} {before after : Stream} {fault : SendFault}
    (h : send request before = .error fault after) : before.writing request = after := by
  rw [writing, h]

/-- Writing shuts nothing down. -/
@[simp] theorem shutdowns_writing (stream : Stream) (request : Bytes) :
    (stream.writing request).shutdowns = stream.shutdowns := by
  unfold writing send
  cases stream.writeFault with
  | some fault => rfl
  | none =>
      rcases stream.script with _ | ⟨respond | ⟨taken, fault⟩, rest⟩ <;> rfl

end BrowserBridge.Stream

namespace BrowserBridge.Channel

open Wire

section

variable {ρ : Type} [Record ρ]

/-- What the bytes behind a header come to as the answer to a call. -/
inductive Answers (method : Method) (sequence : Int32) (header : Header) :
    Except Fault ρ → Bytes → Prop where
  | reply {fields : Fields} {record : ρ} {bytes : Bytes} (hkind : header.kind = .reply)
      (hrecord : Record.ofFields fields = .ok record)
      (hstruct : Encodes .struct (.struct fields) bytes)
      (hheight : (Tree.struct fields).height ≤ maxDepth) :
      Answers method sequence header ((checkReply method sequence header).map fun _ => record)
        bytes
  | exception {fields : Fields} {failure : CallFailure} {bytes : Bytes}
      (hkind : header.kind = .exception) (hrecord : Record.ofFields fields = .ok failure)
      (hstruct : Encodes .struct (.struct fields) bytes)
      (hheight : (Tree.struct fields).height ≤ maxDepth) :
      Answers method sequence header (.error (failure.toFault method.name)) bytes
  /-- Nothing is read behind the header of any other message. -/
  | unexpected (hreply : header.kind ≠ .reply) (hexception : header.kind ≠ .exception) :
      Answers method sequence header
        (mismatch method .invalidMessageType ("unexpected " ++ header.kind.name ++ " message")) []

theorem answers_unexpected_iff {method : Method} {sequence : Int32} {header : Header}
    (hreply : header.kind ≠ .reply) (hexception : header.kind ≠ .exception)
    {outcome : Except Fault ρ} {bytes : Bytes} :
    Answers method sequence header outcome bytes ↔
      outcome = mismatch method .invalidMessageType
        ("unexpected " ++ header.kind.name ++ " message") ∧ bytes = [] := by
  constructor
  · intro h
    cases h with
    | reply hkind => exact absurd hkind hreply
    | exception hkind => exact absurd hkind hexception
    | unexpected => exact ⟨rfl, rfl⟩
  · intro h
    obtain ⟨rfl, rfl⟩ := h
    exact .unexpected hreply hexception

/-- What is read behind a header. -/
def answerRest (ρ : Type) [Record ρ] (method : Method) (sequence : Int32) (header : Header) :
    Read (Except Fault ρ) :=
  match header.kind with
  | .reply => do
    let result : ρ ← Record.read
    return (checkReply method sequence header).map fun _ => result
  | .exception => do
    let failure : CallFailure ← Record.read
    return .error (failure.toFault method.name)
  | kind => return mismatch method .invalidMessageType ("unexpected " ++ kind.name ++ " message")

theorem exact_answerRest (method : Method) (sequence : Int32) (header : Header) :
    Exact (answerRest ρ method sequence header) (Answers method sequence header) := by
  unfold answerRest
  cases hkind : header.kind with
  | reply =>
      refine (exact_read.bind_pure _).congr fun outcome bytes => ?_
      constructor
      · intro h
        obtain ⟨record, ⟨fields, hrecord, hstruct, hheight⟩, rfl⟩ := h
        exact .reply hkind hrecord hstruct hheight
      · intro h
        cases h with
        | reply _ hrecord hstruct hheight => exact ⟨_, ⟨_, hrecord, hstruct, hheight⟩, rfl⟩
        | exception hother =>
            rw [hkind] at hother
            cases hother
        | unexpected hother => exact absurd hkind hother
  | exception =>
      refine (exact_read.bind_pure _).congr fun outcome bytes => ?_
      constructor
      · intro h
        obtain ⟨record, ⟨fields, hrecord, hstruct, hheight⟩, rfl⟩ := h
        exact .exception hkind hrecord hstruct hheight
      · intro h
        cases h with
        | reply hother =>
            rw [hkind] at hother
            cases hother
        | exception _ hrecord hstruct hheight => exact ⟨_, ⟨_, hrecord, hstruct, hheight⟩, rfl⟩
        | unexpected _ hother => exact absurd hkind hother
  | call =>
      refine (exact_pure _).congr fun outcome bytes => ?_
      rw [answers_unexpected_iff (by simp [hkind]) (by simp [hkind]), hkind]
  | oneway =>
      refine (exact_pure _).congr fun outcome bytes => ?_
      rw [answers_unexpected_iff (by simp [hkind]) (by simp [hkind]), hkind]

/-- An answer is read precisely if a header and what it calls for are there. -/
theorem answer_eq_ok_iff {method : Method} {sequence : Int32} {reader after : Reader}
    {outcome : Except Fault ρ} :
    answer ρ method sequence reader = .ok outcome after ↔
      ∃ header front back, EncodesHeader header front ∧
        Answers method sequence header outcome back ∧
        Reader.Takes { reader with counted := 0 } (front ++ back) after := by
  have hanswer : answer ρ method sequence reader =
      (Wire.header >>= answerRest ρ method sequence) reader := rfl
  rw [hanswer, bind_eq_ok_iff]
  constructor
  · intro h
    obtain ⟨header, middle, hheader, hrest⟩ := h
    obtain ⟨front, hfront, hmiddle⟩ := header_eq_ok_iff.mp hheader
    obtain ⟨back, hback, hafter⟩ := (exact_answerRest method sequence header _ _ _).mp hrest
    exact ⟨header, front, back, hfront, hback,
      Reader.Takes.append_iff.mpr ⟨middle, hmiddle, hafter⟩⟩
  · intro h
    obtain ⟨header, front, back, hfront, hback, htakes⟩ := h
    obtain ⟨middle, hmiddle, hafter⟩ := Reader.Takes.append_iff.mp htakes
    exact ⟨header, middle, header_eq_ok_iff.mpr ⟨front, hfront, hmiddle⟩,
      (exact_answerRest method sequence header _ _ _).mpr ⟨back, hback, hafter⟩⟩

end

/-- Every failed read poisons the channel. -/
theorem poisons_readFault (fault : ReadFault) (method : String) (limit : Nat) :
    poisons (fault.toFault method limit) = true := by
  cases fault <;> rfl

theorem poisons_sendFault (fault : SendFault) (method : String) (limit : Nat) :
    poisons (sendFault fault method limit) = true := by
  cases fault <;> rfl

/-- A request that goes out adds to what was sent, and what arrives joins the unread
bytes. -/
theorem send_eq_ok {request : Bytes} {before after : Stream}
    (h : Stream.send request before = .ok () after) :
    after.sent = before.sent ++ request ∧
      ∃ arrived, after.received = before.received ++ arrived ∧
        after.unread = before.unread ++ arrived := by
  unfold Stream.send at h
  split at h
  · cases h
  · split at h
    · cases h
      exact ⟨rfl, [], (List.append_nil _).symm, (List.append_nil _).symm⟩
    · cases h
      exact ⟨rfl, _, rfl, rfl⟩
    · cases h

section

variable {α ρ : Type} [Record α] [Reply ρ] {method : Method} {arguments : α} {before : Channel}
  {stream : Stream}

/-- The channel once a call was sent and all but some bytes were read. -/
def moved (before : Channel) (stream : Stream) (unread : Bytes) : Channel :=
  { before with sequence := before.sequence + 1, stream := { stream with unread := unread } }

/-- What a call comes to whose answer was read. -/
def conclude (method : Method) (outcome : Except Fault ρ) (channel : Channel) :
    EStateM.Result Fault Channel (Reply.Output ρ) :=
  match outcome with
  | .ok result =>
    match Reply.output result method.name with
    | .ok value => .ok value channel
    | .error fault => .error fault channel
  | .error fault => .error fault { channel with poisoned := poisons fault }

variable (hclosed : before.closed = false) (hpoisoned : before.poisoned = false)

include hclosed hpoisoned

theorem call_of_send_error {fault : SendFault}
    (hsend : Stream.send (Record.message method.name .call (before.sequence + 1) arguments)
      before.stream = .error fault stream) :
    call ρ method arguments before =
      .error (sendFault fault method.name (patience before.options))
        { before with sequence := before.sequence + 1, stream := stream, poisoned := true } := by
  simp [call, hclosed, hpoisoned, exchange, hsend, poisons_sendFault]

theorem call_of_answer_error {fault : ReadFault} {reader : Reader}
    (hsend : Stream.send (Record.message method.name .call (before.sequence + 1) arguments)
      before.stream = .ok () stream)
    (hanswer : answer ρ method (before.sequence + 1)
      (.ofBytes stream.unread stream.ending before.options.messageLimit) = .error fault reader) :
    call ρ method arguments before =
      .error (fault.toFault method.name (patience before.options))
        { before.moved stream reader.rest with poisoned := true } := by
  simp [call, hclosed, hpoisoned, exchange, hsend, receive, Stream.read, hanswer,
    poisons_readFault, moved]

theorem call_of_answer_ok {outcome : Except Fault ρ} {reader : Reader}
    (hsend : Stream.send (Record.message method.name .call (before.sequence + 1) arguments)
      before.stream = .ok () stream)
    (hanswer : answer ρ method (before.sequence + 1)
      (.ofBytes stream.unread stream.ending before.options.messageLimit) = .ok outcome reader) :
    call ρ method arguments before = conclude method outcome (before.moved stream reader.rest) := by
  cases outcome with
  | ok result =>
      cases houtput : Reply.output result method.name <;>
        simp [call, hclosed, hpoisoned, exchange, hsend, receive, Stream.read, hanswer, conclude,
          moved, houtput]
  | error fault =>
      simp [call, hclosed, hpoisoned, exchange, hsend, receive, Stream.read, hanswer, conclude,
        moved]

variable (ρ method arguments) in
/-- A call fails and poisons the channel, or its answer is read. -/
theorem call_cases :
    (∃ fault last, call ρ method arguments before = .error fault last ∧ last.poisoned = true) ∨
      ∃ stream outcome reader,
        Stream.send (Record.message method.name .call (before.sequence + 1) arguments)
          before.stream = .ok () stream ∧
        answer ρ method (before.sequence + 1)
          (.ofBytes stream.unread stream.ending before.options.messageLimit) =
            .ok outcome reader ∧
        call ρ method arguments before =
          conclude method outcome (before.moved stream reader.rest) := by
  cases hsend : Stream.send (Record.message method.name .call (before.sequence + 1) arguments)
      before.stream with
  | error fault stream =>
      exact .inl ⟨_, _, call_of_send_error hclosed hpoisoned hsend, rfl⟩
  | ok _ stream =>
      cases hanswer : answer ρ method (before.sequence + 1)
          (.ofBytes stream.unread stream.ending before.options.messageLimit) with
      | error fault reader =>
          exact .inl ⟨_, _, call_of_answer_error hclosed hpoisoned hsend hanswer, rfl⟩
      | ok outcome reader =>
          exact .inr ⟨stream, outcome, reader, rfl, hanswer,
            call_of_answer_ok hclosed hpoisoned hsend hanswer⟩

end

/-- The channel in which a run ends. -/
def finalOf {α : Type} : EStateM.Result Fault Channel α → Channel
  | .ok _ channel => channel
  | .error _ channel => channel

/-- What a run gives. -/
def outcomeOf {α : Type} : EStateM.Result Fault Channel α → Except Fault α
  | .ok a _ => .ok a
  | .error fault _ => .error fault

/-- Between the two channels a call of the method went out and one whole message was
read, and no more. -/
structure Consumes (method : Method) (before after : Channel) (header : Header) (fields : Fields)
    (message : Bytes) : Prop where
  encodes : EncodesMessage header fields message
  height_le : (Tree.struct fields).height ≤ maxDepth
  length_le : message.length ≤ before.options.messageLimit
  sent : ∃ body, after.stream.sent =
    before.stream.sent ++ (Encode.header method.name .call (before.sequence + 1) ++ body)
  arrived : ∃ arrived, after.stream.received = before.stream.received ++ arrived ∧
    before.stream.unread ++ arrived = message ++ after.stream.unread

/-- The value in the fields of a reply. -/
def resolveAs (ρ : Type) [Reply ρ] (method : Method) (fields : Fields) :
    Except Fault (Reply.Output ρ) :=
  match (Record.ofFields fields : Except Malformed ρ) with
  | .ok record => Reply.output record method.name
  | .error cause => .error (.malformed cause)

/-- What a message comes to that does not poison the channel. -/
inductive Settles {α : Type} (method : Method) (sequence : Int32) (header : Header)
    (fields : Fields) (resolved : Except Fault α) : Except Fault α → Prop where
  /-- The call's own reply. -/
  | reply (hkind : header.kind = .reply) (hname : header.name = method.name)
      (hsequence : header.sequence = sequence) :
      Settles method sequence header fields resolved resolved
  /-- Any failure of the call layer that is not a mismatch. -/
  | exception {failure : CallFailure} (hkind : header.kind = .exception)
      (hrecord : Record.ofFields fields = .ok failure)
      (hharmless : poisons (failure.toFault method.name) = false) :
      Settles method sequence header fields resolved (.error (failure.toFault method.name))

/-- A reply is let pass precisely if it carries the name and the number of the call. -/
theorem checkReply_eq_ok_iff {method : Method} {sequence : Int32} {header : Header} :
    checkReply method sequence header = .ok () ↔
      header.name = method.name ∧ header.sequence = sequence := by
  unfold checkReply mismatch
  split
  · simp_all
  · split
    · simp_all
    · simp_all

/-- A reply that is not let pass poisons the channel, and nobody has gone away. -/
theorem checkReply_error {method : Method} {sequence : Int32} {header : Header} {fault : Fault}
    (h : checkReply method sequence header = .error fault) :
    poisons fault = true ∧ fault.isDisconnect = false := by
  unfold checkReply mismatch at h
  split at h
  · cases h
    exact ⟨rfl, rfl⟩
  · split at h
    · cases h
      exact ⟨rfl, rfl⟩
    · cases h

section

variable {α ρ : Type} [Record α] [Reply ρ] {method : Method} {arguments : α} {before : Channel}
  {stream : Stream}

theorem consumes_of_takes {header : Header} {fields : Fields} {front back : Bytes}
    {reader : Reader} {after : Channel}
    (hsend : Stream.send (Record.message method.name .call (before.sequence + 1) arguments)
      before.stream = .ok () stream)
    (hheader : EncodesHeader header front) (hstruct : Encodes .struct (.struct fields) back)
    (hheight : (Tree.struct fields).height ≤ maxDepth)
    (htakes : Reader.Takes (.ofBytes stream.unread stream.ending before.options.messageLimit)
      (front ++ back) reader)
    (hafter : after.stream = { stream with unread := reader.rest }) :
    Consumes method before after header fields (front ++ back) where
  encodes := ⟨front, back, hheader, hstruct, rfl⟩
  height_le := hheight
  length_le := htakes.room
  sent := ⟨Record.encode arguments, by rw [hafter]; exact (send_eq_ok hsend).1⟩
  arrived := by
    obtain ⟨arrived, hreceived, hunread⟩ := (send_eq_ok hsend).2
    rw [hafter]
    exact ⟨arrived, hreceived, hunread.symm.trans htakes.rest⟩

theorem conclude_ok (method : Method) (record : ρ) (channel : Channel) :
    finalOf (conclude method (.ok record) channel) = channel ∧
      outcomeOf (conclude method (.ok record) channel) = Reply.output record method.name := by
  cases houtput : Reply.output record method.name <;>
    simp [conclude, houtput, finalOf, outcomeOf]

theorem finalOf_conclude (method : Method) (outcome : Except Fault ρ) (channel : Channel) :
    ∃ poisoned, finalOf (conclude method outcome channel) =
      { channel with poisoned := poisoned } := by
  cases outcome with
  | error fault => exact ⟨poisons fault, rfl⟩
  | ok record => exact ⟨channel.poisoned, (conclude_ok method record channel).1⟩

/-- All that a call does to a channel that does not refuse it, however it ends. -/
theorem finalOf_call (method : Method) (arguments : α) (hclosed : before.closed = false)
    (hpoisoned : before.poisoned = false) :
    ∃ unread poisoned, finalOf (call ρ method arguments before) =
      { before with
        sequence := before.sequence + 1
        stream := { before.stream.writing (Record.message method.name .call (before.sequence + 1)
          arguments) with unread := unread }
        poisoned := poisoned } := by
  cases hsend : Stream.send (Record.message method.name .call (before.sequence + 1) arguments)
      before.stream with
  | error fault stream =>
      rw [Stream.writing_of_error hsend, call_of_send_error hclosed hpoisoned hsend]
      exact ⟨stream.unread, true, rfl⟩
  | ok _ stream =>
      rw [Stream.writing_of_ok hsend]
      cases hanswer : answer ρ method (before.sequence + 1)
          (.ofBytes stream.unread stream.ending before.options.messageLimit) with
      | error fault reader =>
          rw [call_of_answer_error hclosed hpoisoned hsend hanswer]
          exact ⟨reader.rest, true, rfl⟩
      | ok outcome reader =>
          rw [call_of_answer_ok hclosed hpoisoned hsend hanswer]
          exact ⟨reader.rest, finalOf_conclude method outcome (before.moved stream reader.rest)⟩

theorem conclude_eq_ok {outcome : Except Fault ρ} {channel last : Channel}
    {value : Reply.Output ρ} (h : conclude method outcome channel = .ok value last) :
    last = channel := by
  unfold conclude at h
  split at h
  · split at h <;> cases h
    rfl
  · cases h

theorem resolveAs_of_ofFields {fields : Fields} {record : ρ}
    (hrecord : Record.ofFields fields = .ok record) :
    resolveAs ρ method fields = Reply.output record method.name := by
  rw [resolveAs, hrecord]

/-- A call that leaves the channel usable reads one whole message. -/
theorem call_consumes (hclosed : before.closed = false) (hpoisoned : before.poisoned = false)
    (hafter : (finalOf (call ρ method arguments before)).poisoned = false) :
    ∃ header fields message,
      Consumes method before (finalOf (call ρ method arguments before)) header fields message ∧
        Settles method (before.sequence + 1) header fields (resolveAs ρ method fields)
          (outcomeOf (call ρ method arguments before)) := by
  rcases call_cases ρ method arguments hclosed hpoisoned with
    ⟨fault, last, hcall, hlast⟩ | ⟨stream, outcome, reader, hsend, hanswer, hcall⟩
  · rw [hcall] at hafter
    exact absurd hlast (Bool.eq_false_iff.mp hafter)
  · rw [hcall] at hafter ⊢
    obtain ⟨header, front, back, hheader, hback, htakes⟩ := answer_eq_ok_iff.mp hanswer
    cases hback with
    | @reply fields record _ hkind hrecord hstruct hheight =>
        cases hcheck : checkReply method (before.sequence + 1) header with
        | error fault =>
            rw [hcheck] at hafter
            exact absurd (checkReply_error hcheck).1 (Bool.eq_false_iff.mp hafter)
        | ok _ =>
            obtain ⟨hname, hsequence⟩ := checkReply_eq_ok_iff.mp hcheck
            obtain ⟨hfinal, houtcome⟩ :=
              conclude_ok method record (before.moved stream reader.rest)
            refine ⟨header, fields, _, consumes_of_takes hsend hheader hstruct hheight
              htakes (congrArg Channel.stream hfinal), ?_⟩
            change Settles _ _ _ _ _ (outcomeOf (conclude method (.ok record) _))
            rw [houtcome, ← resolveAs_of_ofFields hrecord]
            exact .reply hkind hname hsequence
    | exception hkind hrecord hstruct hheight =>
        exact ⟨header, _, _, consumes_of_takes hsend hheader hstruct hheight htakes rfl,
          .exception hkind hrecord hafter⟩
    | unexpected hreply hexception => cases hafter

/-- A call that succeeds leaves the channel usable. -/
theorem call_eq_ok {last : Channel} {value : Reply.Output ρ}
    (h : call ρ method arguments before = .ok value last) :
    before.closed = false ∧ before.poisoned = false ∧ last.poisoned = false := by
  cases hclosed : before.closed with
  | true => simp [call, hclosed] at h
  | false =>
      cases hpoisoned : before.poisoned with
      | true => simp [call, hclosed, hpoisoned] at h
      | false =>
          refine ⟨rfl, rfl, ?_⟩
          rcases call_cases ρ method arguments hclosed hpoisoned with
            ⟨fault, last, hcall, -⟩ | ⟨stream, outcome, reader, -, -, hcall⟩
          · rw [hcall] at h
            cases h
          · rw [hcall] at h
            rw [conclude_eq_ok h]
            exact hpoisoned

/-- A closed or poisoned channel refuses a call and stays as it is. -/
theorem call_refused (h : before.closed = true ∨ before.poisoned = true) :
    finalOf (call ρ method arguments before) = before := by
  unfold call
  split
  · rfl
  · split
    · rfl
    · simp_all

end

end BrowserBridge.Channel
