import BrowserBridge.IoFault
import BrowserBridge.Wire.Number
import BrowserBridge.Wire.Tree

/-!
Reading messages off a stream of bytes without frames.  A reader counts what a
message asks for and refuses to draw beyond a limit; the count starts anew with
each header.  Fixed-size data is counted before it is drawn, so a refused draw
takes nothing and yet stays counted.  Lengths are checked against what is left
of the limit before anything is drawn for them.
-/

namespace BrowserBridge.Wire

/-- How a stream goes on once its bytes are used up. -/
inductive Ending where
  /-- The peer closed it. -/
  | closed
  /-- Nothing more arrives, and no end either. -/
  | silent
  /-- Reading fails. -/
  | broken (fault : IoFault)
  deriving DecidableEq

/-- Why a read gave no value. -/
inductive ReadFault where
  | malformed (cause : Malformed)
  | io (fault : IoFault)
  /-- The read waits without end. -/
  | stalled
  deriving DecidableEq

/-- A stream under the size limit of a message. -/
structure Reader where
  /-- Bytes not drawn yet. -/
  rest : Bytes
  ending : Ending
  /-- Bytes asked for since the last header began. -/
  counted : Nat
  /-- Most bytes a message may ask for. -/
  limit : Nat

/-- Reads that keep what they drew when they fail. -/
abbrev Read := EStateM ReadFault Reader

def defaultLimit : Nat := 64 * 1024 * 1024

def Reader.ofBytes (bytes : Bytes) (ending : Ending) (limit : Nat) : Reader :=
  ⟨bytes, ending, 0, limit⟩

/-- The end of a stream inside fixed-size data. -/
def earlyEnd : IoFault := ⟨.unexpectedEnd, "early eof"⟩

/-- The end of a stream inside length-prefixed bytes. -/
def cutShort : IoFault := ⟨.unexpectedEnd, "truncated string"⟩

/-- What a read meets that needs more bytes than there are. -/
def Ending.fault (ending : Ending) (atEnd : IoFault) : ReadFault :=
  match ending with
  | closed => .io atEnd
  | silent => .stalled
  | broken fault => .io fault

/-- Refuses with a violation of the format. -/
def refuse {α : Type} (cause : Malformed) : Read α := throw (.malformed cause)

def count (n : Nat) : Read Unit :=
  modify fun reader => { reader with counted := reader.counted + n }

/-- Takes `n` bytes; where there are fewer it takes them all and fails. -/
def draw (n : Nat) (atEnd : IoFault) : Read Bytes := do
  let reader ← get
  let (front, back) := reader.rest.splitAt n
  set { reader with rest := back }
  if front.length = n then return front else throw (reader.ending.fault atEnd)

def fixed (n : Nat) : Read Bytes := do
  count n
  let reader ← get
  if reader.limit < reader.counted then refuse (.overLimit reader.limit)
  else draw n earlyEnd

/-- Reads a big-endian number of the given width. -/
def number (width : Nat) : Read Nat := valueOf <$> fixed width

def byte : Read UInt8 := UInt8.ofNat <$> number 1

def int16 : Read Int16 := (fun n => (UInt16.ofNat n).toInt16) <$> number 2

def int32 : Read Int32 := (fun n => (UInt32.ofNat n).toInt32) <$> number 4

/-- Reads 64 bits. -/
def word64 : Read UInt64 := UInt64.ofNat <$> number 8

/-- Accepts a length that is not negative and fits what is left of the limit. -/
def checkLength (length : Int32) : Read Nat := do
  if length < 0 then refuse (.negativeLength length)
  else
    let reader ← get
    let n := length.toNatClampNeg
    if reader.limit - reader.counted < n then refuse (.lengthOverLimit n reader.limit)
    else return n

/-- Takes bytes whose length has been checked. -/
def drawLong (n : Nat) : Read Bytes := do
  count n
  draw n cutShort

def binary : Read Bytes := do
  drawLong (← checkLength (← int32))

/-- Reads bytes as a text. -/
def textOf (bytes : Bytes) (wrong : Text.Utf8Fault → Malformed) : Read String :=
  match Text.decode bytes with
  | .ok text => pure text
  | .error fault => refuse (wrong fault)

def tag : Read Tag := do
  let code ← byte
  match Tag.ofCode? code with
  | some tag => return tag
  | none => refuse (.unknownTag code)

/-- Reads the kind of a message from its code. -/
def kindOf (code : UInt8) : Read Kind :=
  match Kind.ofCode? code with
  | some kind => pure kind
  | none => refuse (.unknownKind code)

/-- The version that strict headers carry in the upper half of their first
word. -/
def version : Nat := 0x80010000

/-- Reads a message header.  A first word that is not negative is the length of
the name in a header without a version. -/
def header : Read Header := do
  modify fun reader => { reader with counted := 0 }
  let first ← int32
  if first < 0 then
    let word := first.toUInt32.toNat
    if word / 0x10000 * 0x10000 = version then
      let kind ← kindOf (UInt8.ofNat word)
      let name ← textOf (← binary) .invalidText
      return ⟨name, kind, ← int32⟩
    else refuse (.badVersion (word / 0x10000 * 0x10000))
  else
    let name ← textOf (← drawLong (← checkLength first)) .invalidName
    let kind ← kindOf (← byte)
    return ⟨name, kind, ← int32⟩

/-- Runs a read a number of times. -/
def times {α : Type} : Nat → Read α → Read (List α)
  | 0, _ => return []
  | n + 1, read => do
    let head ← read
    return head :: (← times n read)

/-- Reads fields up to the end of the struct.  Each field takes at least one
byte, so no struct within the limit has as many fields as the limit has
bytes. -/
def fields (value : Tag → Read Tree) : (most : Nat) → Read Fields
  | 0 => do refuse (.overLimit (← get).limit)
  | most + 1 => do
    let fieldTag ← tag
    if fieldTag = .stop then return []
    else
      let id ← int16
      let head ← value fieldTag
      return (id, head) :: (← fields value most)

/-- Reads the value that a tag announces, nested in at most `levels - 1`
further levels. -/
def value : (levels : Nat) → Tag → Read Tree
  | 0, _ => refuse .tooDeep
  | levels + 1, announced =>
    match announced with
    | .stop => refuse .unexpectedStop
    | .bool => (fun b => .bool (b != 0)) <$> byte
    | .byte => (fun b => .byte b.toInt8) <$> byte
    | .double => .double <$> word64
    | .i16 => .i16 <$> int16
    | .i32 => .i32 <$> int32
    | .i64 => (fun w => .i64 w.toInt64) <$> word64
    | .binary => .binary <$> binary
    | .struct => do .struct <$> fields (value levels) ((← get).limit + 1)
    | .map => do
      let keyTag ← tag
      let valueTag ← tag
      let n ← checkLength (← int32)
      .map <$> times n (Prod.mk <$> value levels keyTag <*> value levels valueTag)
    | .set => do
      let elementTag ← tag
      let n ← checkLength (← int32)
      .set <$> times n (value levels elementTag)
    | .list => do
      let elementTag ← tag
      let n ← checkLength (← int32)
      .list <$> times n (value levels elementTag)

def struct : Read Fields := do fields (value maxDepth) ((← get).limit + 1)

end BrowserBridge.Wire
