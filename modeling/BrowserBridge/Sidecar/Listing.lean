import BrowserBridge.Fault
import BrowserBridge.Text.Blank
import BrowserBridge.Text.Numeral
import BrowserBridge.Text.Utf8

/-!
Processes that listen on a port, read off the output of the tools that list them.
Of lines with one process id the first counts; lines of another form do not.
-/

namespace BrowserBridge

structure ProcessInfo where
  pid : UInt32
  name : String
  deriving DecidableEq, Repr

namespace ProcessInfo

/-- The characters of a text with ASCII letters in lower case. -/
def lowered (text : String) : List Char := text.toList.map Char.toLower

/-- Whether a text contains a part. -/
def isWithin (part : List Char) : (text : List Char) → Bool
  | [] => part.isEmpty
  | c :: rest => part.isPrefixOf (c :: rest) || isWithin part rest

theorem isWithin_iff (part text : List Char) : isWithin part text ↔ part <:+: text := by
  induction text with
  | nil => simp [isWithin]
  | cons c rest ih => simp [isWithin, ih, List.infix_cons_iff]

/-- Whether the name contains a marker, up to the case of ASCII letters. -/
def hasMarker (process : ProcessInfo) (marker : String) : Bool :=
  isWithin (lowered marker) (lowered process.name)

end ProcessInfo

namespace Listing

/-- A line without a carriage return at its end. -/
def dropReturn (line : List Char) : List Char :=
  if line.getLast? = some '\r' then line.dropLast else line

/-- The lines of a text.  A newline ends a line, and a carriage return before it is no part of
the line.  What follows the last newline is a line unless it is empty. -/
def lines (text : String) : List (List Char) :=
  let pieces := text.toList.splitOn '\n'
  let last := pieces.getLastD []
  pieces.dropLast.map dropReturn ++ if last.isEmpty then [] else [last]

/-- The process id that a column spells. -/
def pid? (column : String) : Option UInt32 :=
  (Text.natBelow? 0x100000000 column).map UInt32.ofNat

def ofLsofLine (line : List Char) : Option ProcessInfo :=
  match Text.columns line with
  | name :: pid :: _ => (pid? pid).map fun pid => ⟨pid, name⟩
  | _ => none

def ofLsof (output : String) : List ProcessInfo :=
  ((lines output).filterMap ofLsofLine).eraseDupsBy fun a b => a.pid == b.pid

/-- The process id on a line of `netstat` about a listener on a port. -/
def ofNetstatLine (port : UInt16) (line : List Char) : Option UInt32 :=
  match Text.columns line with
  | [protocol, localAddress, _, state, pid] =>
    let colonPort := ':' :: Nat.toDigits 10 port.toNat
    if ProcessInfo.lowered protocol = "tcp".toList &&
        colonPort.isSuffixOf localAddress.toList &&
        ProcessInfo.lowered state = "listening".toList then pid? pid
    else none
  | _ => none

def ofNetstat (output : String) (port : UInt16) : List UInt32 :=
  ((lines output).filterMap (ofNetstatLine port)).eraseDups

/-- The arguments with which `lsof` lists the listeners on a port. -/
def lsofArgs (port : UInt16) : List String :=
  ["-nP", "-iTCP:" ++ toString port.toNat, "-sTCP:LISTEN"]

/-- What running a tool came to. -/
inductive ToolRun where
  | notInstalled
  | failed (reason : String)
  | finished (success : Bool) (output : Bytes)

/-- The processes that a run of `lsof` lists.  A tool that is not installed, or that
fails and prints nothing, lists none. -/
def ofToolRun : ToolRun → Except Fault (List ProcessInfo)
  | .notInstalled => .ok []
  | .failed reason => .error (.processQuery ("Failed to run lsof: " ++ reason))
  | .finished success output =>
    if !success && output.isEmpty then .ok [] else .ok (ofLsof (Text.decodeLossy output))

end Listing

end BrowserBridge
