import BrowserBridge.Shell.Syntax
import BrowserBridge.Sidecar.Relay

/-!
What the programs of one process share: files, open files, the jobs in the background,
the signals on their way, and all that was written to the relayed streams.  Time is
counted in microseconds, and only resting takes any.
-/

namespace BrowserBridge.Shell

inductive PathFault where
  | missing
  | notFolder
  | folder
  | denied
  | tooLong
  deriving DecidableEq, Repr

namespace PathFault

def code : PathFault → Nat
  | missing => 2
  | denied => 13
  | notFolder => 20
  | folder => 21
  | tooLong => 36

def message : PathFault → String
  | missing => "No such file or directory"
  | denied => "Permission denied"
  | notFolder => "Not a directory"
  | folder => "Is a directory"
  | tooLong => "File name too long"

end PathFault

/-- What a path leads to. -/
inductive Node where
  | folder
  /-- A file by the number of its content. -/
  | file (number : Nat)
  /-- A program that can be launched. -/
  | program (name : String)
  /-- A device that takes everything and gives nothing. -/
  | nothing
  /-- What a descriptor leads to. -/
  | descriptor (number : Nat)
  deriving DecidableEq

def programNames : List String :=
  ["cat", "dash", "echo", "env", "false", "printf", "seq", "sh", "sleep", "true"]

/-- A file that is open. -/
structure Opened where
  number : Nat
  /-- How many characters of it were read or written. -/
  position : Nat
  isAppending : Bool
  canRead : Bool
  canWrite : Bool
  /-- Whether it ends where its reader is, who may leave. -/
  isPipe : Bool

/-- Where a descriptor leads. -/
inductive Stream where
  | relayed (stream : OutputStream)
  | nothing
  /-- An open file by its number. -/
  | opened (number : Nat)
  deriving DecidableEq

structure Chunk where
  time : Nat
  /-- The job that wrote it. -/
  writer : Nat
  stream : OutputStream
  text : Chars

def Chunk.bytes (chunk : Chunk) : Bytes := chunk.text.map fun c => UInt8.ofNat c.toNat

/-- A job in the background. -/
structure Job where
  pid : Nat
  finish : Nat
  status : Nat
  /-- The signal that ended it. -/
  signal : Option Nat

structure Sent where
  time : Nat
  target : Nat
  signal : Nat

/-- What the programs of one process share. -/
structure World where
  /-- What was written, last text first. -/
  written : List Chunk
  folders : List Chars
  files : List (Chars × Nat)
  /-- The texts that files consist of, last one first. -/
  contents : List (Nat × List Chars)
  opened : List (Nat × Opened)
  nextNumber : Nat
  nextPid : Nat
  now : Nat
  /-- When something rested first. -/
  firstRest : Option Nat
  jobs : List Job
  sent : List Sent
  /-- The shells that are running. -/
  shells : List Nat

def firstFolders : List String :=
  ["/", "/bin", "/boot", "/dev", "/dev/fd", "/etc", "/home", "/lib", "/media", "/mnt", "/opt",
   "/proc", "/root", "/run", "/sbin", "/srv", "/sys", "/tmp", "/usr", "/usr/bin", "/usr/lib",
   "/usr/local", "/usr/local/bin", "/usr/sbin", "/usr/share", "/var", "/var/log", "/var/tmp",
   "/work"]

/-- The world before anything runs. -/
def World.first : World :=
  { written := []
    folders := firstFolders.map (·.toList)
    files := [("/etc/passwd".toList, 0), ("/etc/hosts".toList, 1), ("/etc/group".toList, 2)]
    contents := [(0, ["root:x:0:0:root:/root:/bin/bash\n".toList]),
      (1, ["127.0.0.1\tlocalhost\n".toList]), (2, ["root:x:0:\n".toList])]
    opened := []
    nextNumber := 3
    nextPid := 1001
    now := 0
    firstRest := none
    jobs := []
    sent := []
    shells := [] }

def components (path : Chars) : List Chars :=
  (path.splitOn '/').filter fun component => !component.isEmpty

/-- An absolute path from its components. -/
def pathOf (components : List Chars) : Chars :=
  if components.isEmpty then ['/'] else components.flatMap ('/' :: ·)

namespace World

/-- What an absolute path leads to that has neither dots nor doubled slashes. -/
def node? (world : World) (path : Chars) : Option Node :=
  if world.folders.contains path then some .folder
  else
    match world.files.lookup path with
    | some number => some (.file number)
    | none =>
      match String.ofList path with
      | "/dev/null" | "/dev/zero" | "/dev/random" | "/dev/urandom" => some .nothing
      | "/dev/stdin" | "/dev/fd/0" => some (.descriptor 0)
      | "/dev/stdout" | "/dev/fd/1" => some (.descriptor 1)
      | "/dev/stderr" | "/dev/fd/2" => some (.descriptor 2)
      | text =>
        let name :=
          if text.startsWith "/usr/bin/" then (text.drop 9).toString
          else if text.startsWith "/bin/" then (text.drop 5).toString
          else ""
        if programNames.contains name then some (.program name) else none

/-- Follows components from a folder.  The last one need not exist. -/
def walk (world : World) (folder : List Chars) : List Chars →
    Except PathFault (Chars × Option Node)
  | [] => .ok (pathOf folder, world.node? (pathOf folder))
  | component :: rest =>
    if 255 < component.length then .error .tooLong
    else
      match world.node? (pathOf folder) with
      | some .folder =>
        match String.ofList component with
        | "." => world.walk folder rest
        | ".." => world.walk folder.dropLast rest
        | _ => world.walk (folder ++ [component]) rest
      | some _ => .error .notFolder
      | none => .error .missing

/-- What a path leads to, seen from a folder: the absolute path, and what is there. -/
def resolve (world : World) (folder path : Chars) : Except PathFault (Chars × Option Node) := do
  if path.isEmpty then .error .missing
  else if 4095 < path.length then .error .tooLong
  else
    let start := if path.head? = some '/' then [] else components folder
    let (whole, node) ← world.walk start (components path)
    if path.getLast? = some '/' then
      match node with
      | some .folder | none => return (whole, node)
      | some _ => .error .notFolder
    else return (whole, node)

/-- What a path leads to, if there is something. -/
def existing (world : World) (folder path : Chars) : Except PathFault Node := do
  match ← world.resolve folder path with
  | (_, some node) => return node
  | (_, none) => .error .missing

def program (world : World) (folder path : Chars) : Except PathFault String := do
  match ← world.existing folder path with
  | .program name => return name
  | _ => .error .denied

def content (world : World) (number : Nat) : Chars :=
  ((world.contents.lookup number).getD []).reverse.flatten

/-- Puts a value in the place of the one with a key, or in front. -/
def replace {α β : Type} [BEq α] (key : α) (value : β) : List (α × β) → List (α × β)
  | [] => [(key, value)]
  | (other, old) :: rest =>
    if other == key then (key, value) :: rest else (other, old) :: replace key value rest

/-- The world after texts were put in the place of a file's content. -/
def setContent (world : World) (number : Nat) (texts : List Chars) : World :=
  { world with contents := replace number texts world.contents }

def newContent (world : World) (text : Chars) : Nat × World :=
  (world.nextNumber,
    { world with
      nextNumber := world.nextNumber + 1
      contents := (world.nextNumber, [text]) :: world.contents })

def newOpened (world : World) (opened : Opened) : Nat × World :=
  (world.nextNumber,
    { world with
      nextNumber := world.nextNumber + 1
      opened := (world.nextNumber, opened) :: world.opened })

/-- A pipe that has a text in it: where it is read and where it is written. -/
def newPipe (world : World) (text : Chars) : Nat × Nat × World :=
  let (number, world) := world.newContent text
  let (reader, world) := world.newOpened ⟨number, 0, false, true, false, true⟩
  let (writer, world) := world.newOpened ⟨number, 0, true, false, true, true⟩
  (reader, writer, world)

def create (world : World) (path : Chars) : Nat × World :=
  let (number, world) := world.newContent []
  (number, { world with files := replace path number world.files })

/-- What is left to be read of an open file. -/
def unread (world : World) (number : Nat) : Chars :=
  match world.opened.lookup number with
  | some opened => (world.content opened.number).drop opened.position
  | none => []

/-- The world after characters of an open file were read. -/
def advance (world : World) (number count : Nat) : World :=
  match world.opened.lookup number with
  | some opened =>
    { world with
      opened := replace number { opened with position := opened.position + count } world.opened }
  | none => world

/-- The world after a text was written to an open file. -/
def writeOpened (world : World) (number : Nat) (text : Chars) : World :=
  match world.opened.lookup number with
  | some opened =>
    if opened.isAppending then
      world.setContent opened.number
        (text :: (world.contents.lookup opened.number).getD [])
    else
      let old := world.content opened.number
      let front := old.take opened.position
      let gap := List.replicate (opened.position - old.length) '\x00'
      let behind := old.drop (opened.position + text.length)
      let world := world.setContent opened.number [behind, text, gap, front]
      world.advance number text.length
  | none => world

/-- The world after time has gone by. -/
def rest (world : World) (time : Nat) : World :=
  if time = 0 then world
  else
    { world with
      now := world.now + time
      firstRest := world.firstRest <|> some world.now }

def job? (world : World) (pid : Nat) : Option Job := world.jobs.find? (·.pid = pid)

/-- The world after a job was ended by a signal, if it was running. -/
def endJob (world : World) (pid signal : Nat) : World :=
  { world with
    jobs := world.jobs.map fun job =>
      if job.pid = pid && world.now < job.finish then
        { job with finish := world.now, status := 128 + signal, signal := some signal }
      else job
    written := world.written.filter fun chunk =>
      !(chunk.writer = pid && world.now ≤ chunk.time &&
        (world.job? pid).any fun job => world.now < job.finish) }

/-- What was written to a relayed stream, by time. -/
def relayed (world : World) (stream : OutputStream) : List Chunk :=
  (world.written.reverse.filter (·.stream = stream)).mergeSort fun a b => a.time ≤ b.time

end World

end BrowserBridge.Shell
