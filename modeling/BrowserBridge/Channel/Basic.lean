import BrowserBridge.Channel.Backoff
import BrowserBridge.Channel.Endpoint
import BrowserBridge.Channel.Options
import BrowserBridge.Channel.Stream
import BrowserBridge.Message.Reply
import BrowserBridge.Service.Basic

/-!
A channel: calls of the service over one stream.  Calls are numbered, and a reply
has to carry the name and the number of its call.  After a failure in the middle of
a message it is unknown where the next message begins, so the channel is poisoned
and refuses every further call.
-/

namespace BrowserBridge

structure Channel where
  stream : Stream
  options : ChannelOptions
  /-- The number of the last call. -/
  sequence : Int32
  poisoned : Bool
  closed : Bool

namespace Channel

/-- A channel over a fresh stream. -/
def ofStream (stream : Stream) (options : ChannelOptions) : Channel :=
  ⟨stream, options, 0, false, false⟩

/-- Whether a fault leaves the place in the stream unknown.  Failures of the call
layer do so only if their kind is one that a mismatched message has. -/
def poisons : Fault → Bool
  | .application _ kind _ =>
    match kind with
    | .invalidMessageType => true
    | .wrongMethodName => true
    | .badSequenceId => true
    | _ => false
  | _ => true

/-- The wait after which a call is given up, in milliseconds.  Without a call timeout it
is the longest that there is: a peer that stays silent then still gives a call timeout
here, where a real call waits without end. -/
def patience (options : ChannelOptions) : Nat :=
  match options.callTimeout with
  | some span => span.millis.toNat
  | none => 0xFFFFFFFFFFFFFFFF

/-- The fault that a failed write of `method`'s request stands for; `limit` is how
long a stalled write is waited for. -/
def sendFault (fault : SendFault) (method : String) (limit : Nat) : Fault :=
  match fault with
  | .io fault => .io fault
  | .stalled => .callTimeout method limit

/-- Refuses a message that is not the reply to a call. -/
def mismatch {α : Type} (method : Method) (kind : CallFailureKind) (what : String) :
    Except Fault α :=
  .error (.application method.name kind (method.name ++ " failed: " ++ what))

def checkReply (method : Method) (sequence : Int32) (header : Wire.Header) :
    Except Fault Unit :=
  if header.name ≠ method.name then
    mismatch method .wrongMethodName ("wrong method name '" ++ header.name ++ "'")
  else if header.sequence ≠ sequence then
    mismatch method .badSequenceId
      s!"out of sequence response (expected {sequence.toInt}, got {header.sequence.toInt})"
  else .ok ()

/-- Runs a read on the channel's stream for a call. -/
def receive {α : Type} (method : Method) (act : Wire.Read α) : EStateM Fault Channel α :=
  fun channel =>
    match Stream.read channel.options.messageLimit act channel.stream with
    | .ok a stream => .ok a { channel with stream := stream }
    | .error fault stream =>
      .error (fault.toFault method.name (patience channel.options))
        { channel with stream := stream }

/-- Reads the message that answers a call. -/
def answer (ρ : Type) [Record ρ] (method : Method) (sequence : Int32) :
    Wire.Read (Except Fault ρ) := do
  let header ← Wire.header
  match header.kind with
  | .reply => do
    let result : ρ ← Record.read
    return (checkReply method sequence header).map fun _ => result
  | .exception => do
    let failure : CallFailure ← Record.read
    return .error (failure.toFault method.name)
  | kind =>
    return mismatch method .invalidMessageType ("unexpected " ++ kind.name ++ " message")

/-- Sends a request and reads its answer. -/
def exchange (ρ : Type) [Record ρ] (method : Method) (sequence : Int32) (request : Bytes) :
    EStateM Fault Channel ρ := fun channel =>
  match Stream.send request channel.stream with
  | .error fault stream =>
    .error (sendFault fault method.name (patience channel.options))
      { channel with stream := stream }
  | .ok () stream =>
    match receive method (answer ρ method sequence) { channel with stream := stream } with
    | .ok (.ok result) channel => .ok result channel
    | .ok (.error fault) channel => .error fault channel
    | .error fault channel => .error fault channel

/-- Calls a method.  A closed or poisoned channel refuses and does nothing. -/
def call {α : Type} (ρ : Type) [Record α] [Reply ρ] (method : Method) (arguments : α) :
    EStateM Fault Channel (Reply.Output ρ) := fun channel =>
  if channel.closed then .error .connectionClosed channel
  else if channel.poisoned then .error .connectionPoisoned channel
  else
    let sequence := channel.sequence + 1
    let request := Record.message method.name .call sequence arguments
    match exchange ρ method sequence request { channel with sequence := sequence } with
    | .ok result channel =>
      match Reply.output result method.name with
      | .ok value => .ok value channel
      | .error fault => .error fault channel
    | .error fault channel =>
      .error fault { channel with poisoned := channel.poisoned || poisons fault }

/-- Counts a fault that says the peer is gone as success. -/
def orGone (act : EStateM Fault Channel Unit) : EStateM Fault Channel Unit := fun channel =>
  match act channel with
  | .ok () channel => .ok () channel
  | .error fault channel =>
    if fault.isDisconnect then .ok () channel else .error fault channel

def shutdown : EStateM Fault Channel Unit := fun channel =>
  match Stream.shutdown channel.stream with
  | .ok () stream => .ok () { channel with stream := stream }
  | .error fault stream => .error (.io fault) { channel with stream := stream }

/-- Closes the channel, once. -/
def close : EStateM Fault Channel Unit := fun channel =>
  if channel.closed then .ok () channel
  else orGone shutdown { channel with closed := true }

/-- Ends the service; it may go away instead of replying. -/
def shutService : EStateM Fault Channel Unit := orGone (call NoResult .shutService NoArguments.mk)

instance : Service Channel where
  perform
    | .attach hub => call NoResult .attach (InitializeArguments.mk (some hub))
    | .execute session command params =>
      call ExecuteResult .execute (ExecuteArguments.mk session (some command) (some params))
    | .checkLayout test session specs included excluded =>
      call LayoutResult .checkLayout
        (LayoutArguments.mk (some test) (some session) (some specs) included excluded)
    | .generateReport folder => call NoResult .generateReport (ReportArguments.mk (some folder))
    | .activeDrivers => call CountResult .activeDrivers NoArguments.mk
    | .shutService => shutService
    | .close => close

/-- Why no connection came about. -/
inductive DialFault where
  | refused (reason : String)
  | timedOut

/-- Connects to an endpoint; `dial` is what the network gives. -/
def connect (endpoint : Endpoint) (options : ChannelOptions) (dial : Except DialFault Stream) :
    Except Fault Channel := do
  endpoint.check
  match dial with
  | .ok stream => return ofStream stream options
  | .error (.refused reason) => throw (.connection (endpoint.text ++ ": " ++ reason))
  | .error .timedOut => throw (.connectionTimeout options.connectTimeout.millis.toNat)

/-- Connects with further attempts; `dial n` is what the network gives on attempt
number `n`. -/
def connectWithRetry (endpoint : Endpoint) (options : ChannelOptions) (backoff : Backoff)
    (dial : Nat → Except DialFault Stream) : Backoff.Trial Channel :=
  backoff.run fun attempt => connect endpoint options (dial attempt)

end Channel

end BrowserBridge
