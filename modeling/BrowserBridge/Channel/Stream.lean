import BrowserBridge.Wire.Reader

/-!
A stream to a peer.  What the peer does is a script: each request that is sent
brings about the next reaction.

The buffer between a request and the peer is left out.  A request goes out whole or up
to where writing stops, and what a failed or stalled write has not brought out is gone:
a later request or the shutdown does not flush it, as a buffered stream that still
holds those bytes would.  A failed write is final: every later write and the shutdown
fail as it did.
-/

namespace BrowserBridge

/-- Why a request does not go out whole. -/
inductive SendFault where
  /-- Writing fails, for this request and for ever. -/
  | io (fault : IoFault)
  /-- The peer takes no more for as long as a call waits. -/
  | stalled
  deriving DecidableEq

/-- What a request brings about. -/
inductive Reaction where
  /-- Bytes arrive, and then the stream goes on in some way. -/
  | answer (respond : Bytes → Bytes × Wire.Ending)
  /-- Writing stops after the first `taken` bytes of the request. -/
  | obstruct (taken : Nat) (fault : SendFault)

/-- Writing fails before anything of the request is taken. -/
def Reaction.refuse (fault : IoFault) : Reaction := .obstruct 0 (.io fault)

structure Stream where
  /-- Bytes that have arrived and were not read. -/
  unread : Bytes
  /-- How the stream goes on after them. -/
  ending : Wire.Ending
  /-- The reactions to come; after them the peer closes the stream. -/
  script : List Reaction
  /-- All bytes that have arrived, read or not. -/
  received : Bytes
  /-- All bytes that were sent. -/
  sent : Bytes
  /-- The failure of every further write. -/
  writeFault : Option IoFault
  /-- The failure of shutting the stream down. -/
  shutdownFault : Option IoFault
  /-- How often the stream was shut down. -/
  shutdowns : Nat

namespace Stream

/-- A stream on which nothing has happened. -/
def ofScript (script : List Reaction) (shutdownFault : Option IoFault) : Stream :=
  ⟨[], .closed, script, [], [], none, shutdownFault, 0⟩

def send (request : Bytes) : EStateM SendFault Stream Unit := fun stream =>
  match stream.writeFault with
  | some fault => .error (.io fault) stream
  | none =>
    match stream.script with
    | [] => .ok () { stream with sent := stream.sent ++ request, ending := .closed }
    | .answer respond :: rest =>
      let (bytes, ending) := respond request
      .ok ()
        { stream with
          unread := stream.unread ++ bytes
          received := stream.received ++ bytes
          ending := ending
          script := rest
          sent := stream.sent ++ request }
    | .obstruct taken fault :: rest =>
      .error fault
        { stream with
          script := rest
          sent := stream.sent ++ request.take taken
          writeFault := match fault with
            | .io fault => some fault
            | .stalled => none }

/-- Reads under a limit on the size of a message. -/
def read {α : Type} (limit : Nat) (act : Wire.Read α) : EStateM Wire.ReadFault Stream α :=
  fun stream =>
    match act (.ofBytes stream.unread stream.ending limit) with
    | .ok a reader => .ok a { stream with unread := reader.rest }
    | .error fault reader => .error fault { stream with unread := reader.rest }

/-- Shuts the stream down.  A stream that cannot be written is left alone. -/
def shutdown : EStateM IoFault Stream Unit := fun stream =>
  match stream.writeFault with
  | some fault => .error fault stream
  | none =>
    let stream := { stream with shutdowns := stream.shutdowns + 1 }
    match stream.shutdownFault with
    | some fault => .error fault stream
    | none => .ok () stream

end Stream

end BrowserBridge
