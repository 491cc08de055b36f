/-!
Failures of reading and writing a stream.
-/

namespace BrowserBridge

/-- The kinds of stream failure that callers tell apart. -/
inductive IoKind where
  /-- The peer closed the stream in the middle of what was read. -/
  | unexpectedEnd
  | connectionReset
  | connectionAborted
  | brokenPipe
  | other
  deriving DecidableEq, Repr

def IoKind.isDisconnect : IoKind → Bool
  | other => false
  | _ => true

/-- A failure of a stream with its text. -/
structure IoFault where
  kind : IoKind
  text : String
  deriving DecidableEq, Repr

end BrowserBridge
