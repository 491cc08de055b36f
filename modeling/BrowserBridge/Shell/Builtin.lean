import BrowserBridge.Shell.Machine
import BrowserBridge.Tool.Condition
import BrowserBridge.Tool.Format

/-!
The shell's own commands, other than those that run commands themselves.  A command
gives its exit code; a mistake in how it is called ends it with a complaint.
-/

namespace BrowserBridge.Shell.Builtin

open Run

/-- The shell's own commands. -/
def names : List String :=
  [":", "[", "break", "cd", "command", "continue", "echo", "eval", "exec", "exit", "export",
   "false", "kill", "local", "printf", "pwd", "read", "readonly", "return", "set", "shift", "test",
   "trap", "true", "unset", "wait"]

/-- Writes to the standard output; gives the exit code. -/
def print (text : Chars) : Run Nat := do
  if text.isEmpty then return 0
  else if ← write 1 text then return 0
  else
    let name := (← shell).speaker.getD []
    complain (name ++ ": I/O error".toList)
    return 1

def natural (text : Chars) : Run Nat := do
  match Tool.natural? text with
  | some n => if n < 0x80000000 then return n else fail ("Illegal number: ".toList ++ text)
  | none => fail ("Illegal number: ".toList ++ text)

/-- Reads the options of a command, which are letters without arguments. -/
def takeOptions (allowed : List Char) : (args : List Chars) → Run (List Char × List Chars)
  | [] => return ([], [])
  | arg :: rest => do
    if arg = ['-', '-'] then return ([], rest)
    else
      match arg with
      | '-' :: c :: letters =>
        match (c :: letters).find? fun letter => !allowed.contains letter with
        | some bad => fail ("Illegal option -".toList ++ [bad])
        | none =>
          let (others, operands) ← takeOptions allowed rest
          return ((c :: letters) ++ others, operands)
      | _ => return ([], arg :: rest)

def changeFolder (args : List Chars) : Run Nat := do
  let (_, operands) ← takeOptions ['P', 'L'] args
  let isBack := operands.head? = some ['-']
  let target ← if isBack then valueOf "OLDPWD" else pure (operands.headD (← valueOf "HOME"))
  let old := (← shell).folder
  let target := if target.isEmpty then old else target
  match ← resolve target with
  | .ok (whole, some .folder) =>
    modifyShell fun shell => { shell with folder := whole }
    assign "OLDPWD".toList old
    assign "PWD".toList whole
    if isBack then print (whole ++ ['\n']) else return 0
  | _ => fail ("can't cd to ".toList ++ target)

/-- Splits an assignment among the arguments of a command. -/
def assignmentOf (arg : Chars) : Chars × Option Chars :=
  match arg.span (· ≠ '=') with
  | (name, _ :: value) => (name, some value)
  | (name, []) => (name, none)

def demandName (name : Chars) : Run Unit := do
  if !isName name then fail (name ++ ": bad variable name".toList)

/-- Marks variables, which may be set on the way. -/
def mark (marked : Variable → Variable) (args : List Chars) : Run Nat := do
  let (_, operands) ← takeOptions ['p'] args
  for arg in operands do
    let (name, value) := assignmentOf arg
    demandName name
    match value with
    | some value => assign name value
    | none => pure ()
    let old := (← held? name).getD ⟨none, false, false⟩
    putVariable name (marked old)
  return 0

def makeLocal (args : List Chars) : Run Nat := do
  match (← shell).scopes with
  | [] => fail "not in a function".toList
  | _ =>
    for arg in args do
      let (name, value) := assignmentOf arg
      if arg = ['-'] then
        let letters := (← shell).options
        modifyShell fun shell =>
          { shell with scopes := match shell.scopes with
              | scope :: others =>
                ((['-'], some ⟨some letters, false, false⟩) :: scope) :: others
              | [] => [] }
      else
        demandName name
        let old ← held? name
        modifyShell fun shell =>
          { shell with scopes := match shell.scopes with
              | scope :: others => ((name, old) :: scope) :: others
              | [] => [] }
        match value with
        | some value => assign name value
        | none => pure ()
    return 0

def unsetAll (args : List Chars) : Run Nat := do
  let (options, operands) ← takeOptions ['v', 'f'] args
  for name in operands do
    if options.contains 'f' then
      modifyShell fun shell =>
        { shell with functions := shell.functions.filter (·.1 ≠ name) }
    else
      demandName name
      unset name
  return 0

/-- The letters of the options of the shell, in the order in which they are shown. -/
def options : List Char := "pubaCEVvxsnmiIfe".toList

def switch (isOn : Bool) (letter : Char) : Run Unit := do
  if !options.contains letter then
    fail ("Illegal option -".toList ++ [letter])
  else modifyShell fun shell =>
    let others := shell.options.filter (· ≠ letter)
    { shell with options := if isOn then letter :: others else others }

def optionLetters : Run Chars := do
  return options.filter (← shell).options.contains

/-- Reads options that are switched on and off; gives the arguments behind them, if
there are to be any. -/
def switchAll : (args : List Chars) → Run (Option (List Chars))
  | [] => return none
  | arg :: rest => do
    match arg with
    | ['-', '-'] => return some rest
    | ['-'] =>
      switch false 'x'
      switch false 'v'
      return if rest.isEmpty then none else some rest
    | sign :: c :: letters =>
      if sign = '-' || sign = '+' then
        for letter in c :: letters do
          switch (sign = '-') letter
        switchAll rest
      else return some (arg :: rest)
    | _ => return some (arg :: rest)

def set (args : List Chars) : Run Nat := do
  match ← switchAll args with
  | some args => modifyShell fun shell => { shell with args := args }
  | none => pure ()
  return 0

def shift (args : List Chars) : Run Nat := do
  let count ← match args with
    | first :: _ => natural first
    | [] => pure 1
  if (← shell).args.length < count then fail "can't shift that many".toList
  else
    modifyShell fun shell => { shell with args := shell.args.drop count }
    return 0

/-- A line that was read: its characters, and whether each one can separate fields; with
it how many characters that took, and whether a line end came.  `fuel` bounds the
steps. -/
def takeLine (isRaw : Bool) : (fuel : Nat) → Chars → List (Char × Bool) × Nat × Bool
  | 0, _ => ([], 0, false)
  | _ + 1, [] => ([], 0, false)
  | fuel + 1, c :: rest =>
    if c = '\n' then ([], 1, true)
    else if c = '\\' && !isRaw then
      match rest with
      | [] => ([], 1, false)
      | '\n' :: behind =>
        let (line, count, hasEnd) := takeLine isRaw fuel behind
        (line, count + 2, hasEnd)
      | escaped :: behind =>
        let (line, count, hasEnd) := takeLine isRaw fuel behind
        ((escaped, false) :: line, count + 2, hasEnd)
    else if c = '\x00' then
      let (line, count, hasEnd) := takeLine isRaw fuel rest
      (line, count + 1, hasEnd)
    else
      let (line, count, hasEnd) := takeLine isRaw fuel rest
      ((c, true) :: line, count + 1, hasEnd)

/-- Splits a line among so many variables; the last one gets all that is left. -/
def splitLine (separators : Chars) : (count : Nat) → List (Char × Bool) → List Chars
  | 0, _ => []
  | count + 1, line =>
    let separates (letter : Char × Bool) : Bool := letter.2 && separators.contains letter.1
    let isBlank (letter : Char × Bool) : Bool :=
      separates letter && [' ', '\t', '\n'].contains letter.1
    let line := line.dropWhile isBlank
    let (field, behind) := line.span fun letter => !separates letter
    let afterBlanks := behind.dropWhile isBlank
    let rest := match afterBlanks with
      | letter :: others => if separates letter then others.dropWhile isBlank else afterBlanks
      | [] => []
    if count = 0 then
      let whole := if rest.isEmpty then field
        else (line.reverse.dropWhile isBlank).reverse
      [whole.map (·.1)]
    else field.map (·.1) :: splitLine separators count rest

/-- Reads a line into variables. -/
def read (args : List Chars) : Run Nat := do
  let isRaw (letters : Chars) : Bool := letters.contains 'r'
  let (letters, operands) ← (do
    match args with
    | ['-', 'p'] :: _ :: rest => takeOptions ['r'] rest
    | ['-', 'r'] :: ['-', 'p'] :: _ :: rest => return (['r'], rest)
    | _ => takeOptions ['r'] args : Run (Chars × List Chars))
  if operands.isEmpty then fail "arg count".toList
  else
    let text ← unread 0
    let (line, count, hasEnd) := takeLine (isRaw letters) (text.length + 1) text
    take 0 count
    let separators := (← value? "IFS".toList).getD [' ', '\t', '\n']
    let fields := splitLine separators operands.length line
    for (name, value) in operands.zip fields do
      demandName name
      assign name value
    return if hasEnd then 0 else 1

/-- Says what is done on signals. -/
def trap (args : List Chars) : Run Nat := do
  let (_, operands) ← takeOptions [] args
  match operands with
  | [] => return 0
  | first :: rest =>
    let (action, signals) : Option Chars × List Chars :=
      if rest.isEmpty || (Tool.natural? first).any (· < 65) then (none, operands)
      else if first = ['-'] then (none, rest)
      else (some first, rest)
    let step := fun (code : Nat) (text : Chars) => do
      if code ≠ 0 then return code
      else
        match signal? text with
        | none =>
          warn ("trap: ".toList ++ text ++ ": bad trap\n".toList)
          return 1
        | some signal =>
          modifyShell fun shell =>
            let others := shell.traps.filter (·.1 ≠ signal)
            { shell with traps := match action with
                | some action => (signal, action) :: others
                | none => others }
          return 0
    signals.foldlM step 0

def killUsage : String :=
  "Usage: kill [-s sigspec | -signum | -sigspec] [pid | job]... or\nkill -l [exitstatus]"

def sendAll (signal : Nat) (targets : List Chars) : Run Nat := do
  let step := fun (code : Nat) (text : Chars) => do
    let pid ← match text with
      | '-' :: digits => natural digits
      | _ => natural text
    if ← send pid signal then return code
    else
      complain "No such process\n".toList
      return 1
  targets.foldlM step 0

def kill (args : List Chars) : Run Nat := do
  let sendTo (signal : Nat) (targets : List Chars) : Run Nat :=
    if targets.isEmpty then fail killUsage.toList else sendAll signal targets
  let named (text : Chars) (targets : List Chars) : Run Nat := do
    let targets := if targets.head? = some ['-', '-'] then targets.drop 1 else targets
    match signal? text with
    | some signal => sendTo signal targets
    | none => fail ("invalid signal number or name: ".toList ++ text)
  match args with
  | [] => fail killUsage.toList
  | first :: rest =>
    match first with
    | '-' :: c :: letters =>
      match signal? (c :: letters) with
      | some signal => sendTo signal rest
      | none =>
        if first = ['-', '-'] then sendTo 15 rest
        else if c = 's' then
          if !letters.isEmpty then named letters rest
          else
            match rest with
            | text :: targets => named text targets
            | [] => fail "No arg for -s option".toList
        else fail ("Illegal option -".toList ++ [c])
    | _ => sendTo 15 args

/-- Where a program is found in the folders of `PATH`: its path, and its name. -/
def findProgram (name : Chars) : Run (Except PathFault (Chars × String)) := do
  if name.contains '/' then
    let world ← world
    match world.program (← shell).folder name with
    | .ok program => return .ok (name, program)
    | .error fault => return .error fault
  else
    let world ← world
    let folder := (← shell).folder
    let places := ((← valueOf "PATH").splitOn ':').map fun place =>
      if place.isEmpty then name else place ++ '/' :: name
    let found := places.findSome? fun path =>
      match world.program folder path with
      | .ok program => some (path, program)
      | .error _ => none
    match found with
    | some found => return .ok found
    | none =>
      let isThere := places.any fun path =>
        match world.existing folder path with
        | .ok _ => true
        | .error _ => false
      return .error (if isThere then .denied else .missing)

/-- Waits until some time, or until a signal comes that is minded or ends the shell. -/
def waitUntil (time : Nat) : Run (Option Nat) := do
  let world ← world
  let shell ← shell
  let coming := world.sent.filter fun sent => sent.target = shell.pid && sent.time < time &&
    !(shell.traps.lookup sent.signal).any (·.isEmpty) &&
    ((shell.traps.lookup sent.signal).isSome || disposition sent.signal ≠ .ignored)
  match (if shell.isCopy then none else coming.head?) with
  | some sent =>
    modifyWorld fun world => world.rest (sent.time - world.now)
    return some sent.signal
  | none =>
    modifyWorld fun world => world.rest (time - world.now)
    return none

def wait (args : List Chars) : Run Nat := do
  let (_, operands) ← takeOptions [] args
  if operands.isEmpty then
    let mine := (← shell).jobs
    let ends := ((← world).jobs.filter fun job => mine.contains job.pid).map (·.finish)
    match ← waitUntil (ends.foldl max (← world).now) with
    | some signal => return 128 + signal
    | none => return 0
  else
    let step := fun (_ : Nat) (text : Chars) => do
      let pid ← natural text
      if !(← shell).jobs.contains pid then return 127
      else
        match (← world).job? pid with
        | some job =>
          match ← waitUntil (max job.finish (← world).now) with
          | some signal => return 128 + signal
          | none =>
            match (← world).job? pid with
            | some job =>
              match job.signal with
              | some signal => warnOf signal
              | none => pure ()
              return job.status
            | none => return 0
        | none => return 127
    operands.foldlM step 0

/-- The shell's own reader of formats. -/
def printFormat (args : List Chars) : Run Nat := do
  let (_, operands) ← takeOptions [] args
  match operands with
  | [] => fail "usage: printf format [arg ...]".toList
  | format :: args =>
    let result := Tool.Format.run true format args
    let code ← print result.output
    if result.hasFailed then
      for message in result.messages.dropLast do
        complain message
      fail ((result.messages.getLast?).getD [])
    else
      for message in result.messages do
        complain message
      return max code result.status

/-- What conditions ask for about files. -/
def look : Run Tool.Condition.Look := do
  let world ← world
  let shell ← shell
  return fun path =>
    match world.existing shell.folder path with
    | .ok (.file number) => some (.file number, !(world.content number).isEmpty)
    | .ok (.descriptor n) =>
      if (shell.descriptors.lookup n).isSome then some (.nothing, false) else none
    | .ok node => some (node, false)
    | .error _ => none

/-- Works a condition out. -/
def test (isBracket : Bool) (args : List Chars) : Run Nat := do
  match Tool.Condition.check (← look) isBracket args with
  | none => fail "missing ]".toList
  | some (.ok holds) => return if holds then 0 else 1
  | some (.error fault) => fail fault.message

/-- The number of levels that loops are left by. -/
def levels (args : List Chars) : Run Nat := do
  match args with
  | [] => return 1
  | first :: _ =>
    let n ← natural first
    if n = 0 then fail ("Illegal number: ".toList ++ first) else return n

def run (name : String) (args : List Chars) : Run Nat := do
  match name with
  | "false" => return 1
  | "echo" => print (Tool.shellEcho args)
  | "printf" => printFormat args
  | "test" => test false args
  | "[" => test true args
  | "cd" => changeFolder args
  | "pwd" => print ((← shell).folder ++ ['\n'])
  | "export" => mark (fun held => { held with isExported := true }) args
  | "readonly" => mark (fun held => { held with isReadOnly := true }) args
  | "local" => makeLocal args
  | "unset" => unsetAll args
  | "set" => set args
  | "shift" => shift args
  | "read" => read args
  | "trap" => trap args
  | "kill" => kill args
  | "wait" => wait args
  | "exit" =>
    match args with
    | first :: _ => setStatus (← natural first)
    | [] => pure ()
    throw .exited
  | "return" =>
    match args with
    | first :: _ => setStatus (← natural first)
    | [] => pure ()
    throw .returned
  | "break" | "continue" =>
    let n ← levels args
    let loops := (← shell).loops
    if loops = 0 then return 0
    else
      setStatus 0
      throw (if name = "break" then .leave (min n loops) else .again (min n loops))
  | _ => return 0

end BrowserBridge.Shell.Builtin
