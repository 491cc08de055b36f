import BrowserBridge.Text.Utf8

/-!
Relaying the output of a process line by line as it arrives.  A line is read up to its
newline or, at the end of the stream, up to there; what follows the last newline is lost
if reading fails.  Of a line a newline at its end is dropped and then a carriage return
there, and what is not UTF-8 is replaced.
-/

namespace BrowserBridge

inductive OutputStream where
  | stdout
  | stderr
  deriving DecidableEq, Repr

namespace OutputStream

def name : OutputStream → String
  | stdout => "stdout"
  | stderr => "stderr"

/-- Who is said to listen where no one is named. -/
def listener (stream : OutputStream) : String := stream.name ++ " listener"

def level : OutputStream → String
  | stdout => "INFO"
  | stderr => "WARN"

end OutputStream

namespace Relay

def newline : UInt8 := 0x0A

def carriageReturn : UInt8 := 0x0D

/-- How a stream of bytes ends. -/
inductive End where
  | finished
  | failed
  deriving DecidableEq, Repr

/-- What is still to be read of a stream. -/
structure Source where
  /-- What has arrived and is not read. -/
  arrived : Bytes
  /-- What will arrive, one piece after the other. -/
  chunks : List Bytes
  /-- How the stream ends after that. -/
  ended : End

namespace Source

/-- A stream before its first byte arrives. -/
def ofChunks (chunks : List Bytes) (ended : End) : Source := ⟨[], chunks, ended⟩

def bytes (source : Source) : Bytes := source.arrived ++ source.chunks.flatten

/-- Reads on behind `taken` up to a newline, which is taken too, or up to the end of the
stream.  There is no line if reading fails. -/
def readOn (ended : End) (taken arrived : Bytes) (chunks : List Bytes) :
    Option (Bytes × Source) :=
  if newline ∈ arrived then
    let taking := arrived.idxOf newline + 1
    some (taken ++ arrived.take taking, ⟨arrived.drop taking, chunks, ended⟩)
  else match chunks with
    | chunk :: chunks => readOn ended (taken ++ arrived) chunk chunks
    | [] => if ended = .finished then some (taken ++ arrived, ⟨[], [], ended⟩) else none

/-- Reads a line with its newline; it is empty at the end of the stream. -/
def readLine (source : Source) : Option (Bytes × Source) :=
  readOn source.ended [] source.arrived source.chunks

/-- A line and what is left behind it are what there was. -/
theorem readOn_bytes {ended : End} {taken arrived : Bytes} {chunks : List Bytes}
    {line : Bytes} {rest : Source}
    (h : readOn ended taken arrived chunks = some (line, rest)) :
    line ++ rest.bytes = taken ++ arrived ++ chunks.flatten := by
  fun_induction readOn ended taken arrived chunks with
  | case1 chunks taken arrived _ taking =>
      cases h
      simp only [bytes, List.append_assoc]
      rw [← List.append_assoc (arrived.take taking), List.take_append_drop]
  | case2 taken arrived _ chunk chunks ih =>
      rw [ih h, List.flatten_cons, List.append_assoc (taken ++ arrived)]
  | case3 =>
      cases h
      rfl
  | case4 => cases h

theorem readLine_bytes {source rest : Source} {line : Bytes}
    (h : source.readLine = some (line, rest)) : line ++ rest.bytes = source.bytes :=
  readOn_bytes h

end Source

structure Record where
  stream : OutputStream
  listener : String
  line : String
  deriving DecidableEq, Repr

/-- What a relay leaves. -/
structure Outcome where
  /-- What it logged, in order. -/
  records : List Record
  /-- How many lines it counted. -/
  count : UInt64

/-- Bytes without one that they may end with. -/
def dropLastOf (byte : UInt8) (bytes : Bytes) : Bytes :=
  if bytes.getLast? = some byte then bytes.dropLast else bytes

theorem dropLastOf_append (byte : UInt8) (bytes : Bytes) :
    dropLastOf byte (bytes ++ [byte]) = bytes := by
  simp [dropLastOf]

theorem dropLastOf_of_getLast? {byte : UInt8} {bytes : Bytes}
    (h : bytes.getLast? ≠ some byte) : dropLastOf byte bytes = bytes :=
  if_neg h

/-- The text of a line: without its newline, and then without a carriage return at the
end of what is left. -/
def textOf (line : Bytes) : String :=
  Text.decodeLossy (dropLastOf carriageReturn (dropLastOf newline line))

/-- Logs line after line; `logged` are the records so far, the last one first. -/
def relay (stream : OutputStream) (listener : String) (logged : List Record) (count : UInt64)
    (source : Source) : Outcome :=
  match h : source.readLine with
  | some (line, rest) =>
    if line = [] then ⟨logged.reverse, count⟩
    else relay stream listener (⟨stream, listener, textOf line⟩ :: logged) (count + 1) rest
  | none => ⟨logged.reverse, count⟩
termination_by source.bytes.length
decreasing_by
  rw [← Source.readLine_bytes h, List.length_append]
  exact Nat.lt_add_of_pos_left (List.length_pos_iff.mpr ‹_›)

/-- Relays a stream that arrives in chunks. -/
def run (stream : OutputStream) (listener : String) (chunks : List Bytes) (ended : End) :
    Outcome :=
  relay stream listener [] 0 (.ofChunks chunks ended)

end Relay

end BrowserBridge
