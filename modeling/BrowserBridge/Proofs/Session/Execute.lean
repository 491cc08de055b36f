import BrowserBridge.Proofs.Channel.Answered
import BrowserBridge.Session.Executor

/-!
Commands that may be run.  Such a command is one call of the service, and over a channel it
is faithful in both directions: the request that is sent says what was asked for, and what
comes back is what the reply says.
-/

namespace BrowserBridge

open Wire

/-- A seat whose service has come to another state. -/
def Seat.withService {σ : Type} (seat : Seat σ) (service : σ) : Seat σ :=
  { seat with connection := { seat.connection with service := service } }

namespace Act

section

variable {σ α : Type} {seat : Seat σ} {service : σ} {act : EStateM Fault σ α}

theorem onService_of_ok {a : α} (h : act seat.connection.service = .ok a service) :
    onService act seat = .ok a (seat.withService service) := by
  rw [onService, h]
  rfl

theorem onService_of_error {fault : Fault}
    (h : act seat.connection.service = .error fault service) :
    onService act seat = .error fault (seat.withService service) := by
  rw [onService, h]
  rfl

theorem reach_of_held (hheld : seat.executor.isReleased = false) :
    reach act seat = onService act seat := by
  change (if seat.executor.isReleased then _ else onService act : Act σ α) seat = _
  rw [hheld]
  rfl

variable [Service σ] {command : Command} {params : Json}

/-- A command that belongs to a session or needs none is one call, if the service can be
reached. -/
theorem execute_of_session
    (hsession : seat.executor.session.isSome ∨ command.isSessionFree) :
    execute command.name params seat =
      (seat.executor.adapter.adapt <$> reach (Service.perform
        (.execute (seat.executor.session.map SessionId.text) command.name params.render)))
      seat := by
  have hadmitted : (seat.executor.session.isNone && !command.isSessionFree) = false := by
    rcases hsession with hbound | hfree
    · rw [Option.isNone_eq_false_iff.mpr hbound, Bool.false_and]
    · rw [hfree, Bool.not_true, Bool.and_false]
  rw [execute, Command.ofName?_name]
  change (if seat.executor.session.isNone && !command.isSessionFree then _ else
    seat.executor.adapter.adapt <$> reach (Service.perform (.execute
      (seat.executor.session.map SessionId.text) command.name params.render)) : Act σ Outcome)
    seat = _
  rw [hadmitted]
  rfl

variable (hheld : seat.executor.isReleased = false)
  (hsession : seat.executor.session.isSome ∨ command.isSessionFree)

include hheld hsession

/-- A command that may be run is one call of the service, and the answer is adapted. -/
theorem execute_eq :
    execute command.name params seat =
      (seat.executor.adapter.adapt <$> onService (Service.perform
        (.execute (seat.executor.session.map SessionId.text) command.name params.render)))
      seat := by
  rw [execute_of_session hsession]
  change EStateM.map _ (reach _) seat = EStateM.map _ (onService _) seat
  rw [EStateM.map, EStateM.map, reach_of_held hheld]

theorem execute_of_ok {response : Response}
    (h : Service.perform (.execute (seat.executor.session.map SessionId.text) command.name
      params.render) seat.connection.service = .ok response service) :
    execute command.name params seat =
      .ok (seat.executor.adapter.adapt response) (seat.withService service) := by
  rw [execute_eq hheld hsession]
  exact map_of_ok (onService_of_ok h)

theorem execute_of_error {fault : Fault}
    (h : Service.perform (.execute (seat.executor.session.map SessionId.text) command.name
      params.render) seat.connection.service = .error fault service) :
    execute command.name params seat = .error fault (seat.withService service) := by
  rw [execute_eq hheld hsession]
  exact map_of_error (onService_of_error h)

end

end Act

namespace Message

/-- The message that asks for a command. -/
def ofCommand (sequence : Int32) (session : Option SessionId) (command : Command)
    (params : Json) : Message :=
  ⟨⟨"execute", .call, sequence⟩, .executeArguments,
    ⟨session.map SessionId.text, some command.name, some params.render⟩⟩

/-- The message that answers a command. -/
def ofResult (sequence : Int32) (result : ExecuteResult) : Message :=
  ⟨⟨"execute", .reply, sequence⟩, .executeResult, result⟩

end Message

namespace Channel

/-- Between the two channels a request went out and nothing failed in the middle of a
message; `tail` is left unread. -/
structure Exchanges (before after : Channel) (request : Message) (tail : Bytes) : Prop where
  sent : after.stream.sent = before.stream.sent ++ request.bytes
  /-- Under every limit that it fits, the request reads back as itself, and nothing of what
  follows it is read. -/
  decodes : ∀ back ending counted limit, request.Fits limit →
    ∃ last, readMessages [request.schema] ⟨request.bytes ++ back, ending, counted, limit⟩ =
      .ok [request] ⟨back, ending, last, limit⟩
  sequence : after.sequence = before.sequence + 1
  poisoned : after.poisoned = false
  unread : after.stream.unread = tail

theorem exchanges_moved {before : Channel} {stream : Stream} {request : Message} {tail : Bytes}
    (hpoisoned : before.poisoned = false) (hsettled : request.settled = request)
    (hsend : Stream.send request.bytes before.stream = .ok () stream) :
    Exchanges before (before.moved stream tail) request tail where
  sent := (send_eq_ok hsend).1
  decodes back ending counted limit hfits := by
    have hread := readMessages_append [request] back ending limit
      (by simpa using hfits.1) (by simpa using hfits.lengths_le) counted
    simpa [hsettled] using hread
  sequence := rfl
  poisoned := hpoisoned
  unread := rfl

/-- A call of `execute` whose own reply comes next ends with the result in it. -/
theorem perform_execute_of_result {session : Option String} {command params : String}
    {channel : Channel} {stream : Stream} {result : ExecuteResult} {tail : Bytes}
    (hclosed : channel.closed = false) (hpoisoned : channel.poisoned = false)
    (hsend : Stream.send (Call.request (.execute session command params) (channel.sequence + 1))
      channel.stream = .ok () stream)
    (hfits : (Message.ofResult (channel.sequence + 1) result).Fits channel.options.messageLimit)
    (hunread : stream.unread = (Message.ofResult (channel.sequence + 1) result).bytes ++ tail) :
    Service.perform (.execute session command params) channel =
      conclude .execute (.ok (LawfulRecord.settled result)) (channel.moved stream tail) :=
  call_of_record hclosed hpoisoned hsend (Message.encodes _ hfits.lengths_le) hunread
    (height_pieces_le result) hfits.1 (LawfulRecord.ofFields_eq result)

end Channel

/-- Commands are faithful over a channel.  Of a command that may be run exactly one message
goes out, and it says which session the command belongs to, which command it is and what its
parameters are.  If its reply comes next, a response in it is the outcome as the adapter has
it, and a failure in it is the text of the fault; what follows the reply stays unread. -/
theorem Act.execute_faithful (command : Command) (params : Json) (executor : Executor)
    (channel : Channel) (holders : Nat) (stream : Stream)
    (hheld : executor.isReleased = false)
    (hsession : executor.session.isSome ∨ command.isSessionFree)
    (hclosed : channel.closed = false) (hpoisoned : channel.poisoned = false)
    (hsend : Stream.send
      (Message.ofCommand (channel.sequence + 1) executor.session command params).bytes
      channel.stream = .ok () stream) :
    let seat : Seat Channel := ⟨executor, ⟨channel, holders⟩⟩
    let request := Message.ofCommand (channel.sequence + 1) executor.session command params
    let reply := Message.ofResult (channel.sequence + 1)
    (∀ response tail,
      (∀ values, response.value.bind Value.texts? = some values → values.Nodup) →
      (reply (.ofResponse response)).Fits channel.options.messageLimit →
      stream.unread = (reply (.ofResponse response)).bytes ++ tail →
      ∃ last, execute command.name params seat =
          .ok (executor.adapter.adapt response) (seat.withService last) ∧
        channel.Exchanges last request tail) ∧
    ∀ reason tail, (reply (.ofFailure reason)).Fits channel.options.messageLimit →
      stream.unread = (reply (.ofFailure reason)).bytes ++ tail →
      ∃ fault last, execute command.name params seat = .error fault (seat.withService last) ∧
        fault.message = reason ∧ channel.Exchanges last request tail := by
  intro seat request reply
  have hexchanges (tail : Bytes) : channel.Exchanges (channel.moved stream tail) request tail :=
    Channel.exchanges_moved hpoisoned rfl hsend
  constructor
  · intro response tail hnodup hfits hunread
    have hanswered := Channel.perform_execute_of_result hclosed hpoisoned hsend hfits hunread
    have hsettled : LawfulRecord.settled (ExecuteResult.ofResponse response) =
        .ofResponse response := by
      change ExecuteResult.ofResponse (LawfulRecord.settled response) = _
      rw [Response.settled_of_nodup hnodup]
    rw [hsettled] at hanswered
    exact ⟨_, execute_of_ok hheld hsession hanswered, hexchanges tail⟩
  · intro reason tail hfits hunread
    have hanswered := Channel.perform_execute_of_result hclosed hpoisoned hsend hfits hunread
    exact ⟨.command reason, _, execute_of_error hheld hsession hanswered, rfl, hexchanges tail⟩

/-- A command in a session, answered once with a set and once with a failure, by a channel
whose next number is out of the range of 32 bits. -/
theorem Act.execute_faithful_last_number :
    let executor : Executor := ⟨.owned, SessionId.ofText? "s", .setOnly⟩
    let seatWith := fun result : ExecuteResult =>
      let reply := Message.ofResult (Int32.maxValue + 1) result
      let stream := Stream.ofScript [.answer fun _ => (reply.bytes ++ [7], .silent)] none
      (⟨executor, ⟨{ Channel.ofStream stream ⟨.ofMillis 10000, none, 100⟩ with
        sequence := Int32.maxValue }, 1⟩⟩ : Seat Channel)
    let response : Response := ⟨some (.texts ["b", "a"]), some "s", none, some "done"⟩
    (∃ after, execute "getTitle" .null (seatWith (.ofResponse response)) =
        .ok ⟨0, some "s", "done", .array [.string "b", .string "a"], response.value⟩ after ∧
      after.connection.service.sequence = Int32.minValue ∧
      after.connection.service.stream.unread = [7]) ∧
    ∃ fault after, execute "getTitle" .null (seatWith (.ofFailure "no page")) =
        .error fault after ∧ fault.message = "no page" := by
  intro executor seatWith response
  have hfaithful (result : ExecuteResult) :=
    execute_faithful .title .null executor (seatWith result).connection.service 1 _ rfl
      (.inl rfl) rfl rfl rfl
  constructor
  · obtain ⟨last, hanswered, hexchanges⟩ := (hfaithful (.ofResponse response)).1 response [7]
      (by rintro values ⟨⟩; decide) ⟨by decide, .inl (by decide)⟩ rfl
    exact ⟨_, hanswered, hexchanges.sequence.trans (by decide), hexchanges.unread⟩
  · obtain ⟨fault, last, hfails, hmessage, -⟩ := (hfaithful (.ofFailure "no page")).2 "no page"
      [7] ⟨by decide, .inl (by decide)⟩ rfl
    exact ⟨fault, _, hfails, hmessage⟩

end BrowserBridge
