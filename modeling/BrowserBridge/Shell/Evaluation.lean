import BrowserBridge.Shell.Beginning
import BrowserBridge.Shell.Copy
import BrowserBridge.Shell.Expansion
import BrowserBridge.Shell.Opening
import BrowserBridge.Shell.Parser
import BrowserBridge.Shell.Tools

/-!
Running commands.  Words are expanded, redirections lead descriptors elsewhere, and a
command is a function, one of the shell's own commands or a program.  A pipeline and a
substitution run in copies of the shell; commands in the background run in a copy as
well, and the clock is put back behind them.

Every function here takes fuel, which bounds the steps; a script that needs more does
not come to an end.
-/

namespace BrowserBridge.Shell

open Run

/-- Writes the words of a command that is about to run, where that is asked for. -/
def trace (stream : Option Stream) (words : List Chars) : Run Unit := do
  if ← isOn 'x' then
    let front := (← value? "PS4".toList).getD ['+', ' ']
    match stream with
    | some stream => discard (writeStream stream (front ++ Tool.spaced words ++ ['\n']))
    | none => return ()

mutual

/-- Expands the parts of a word; `isFull` says whether the word becomes fields. -/
def expand : (fuel : Nat) → (isFull : Bool) → List Part → Run (List Glyph)
  | 0, _, _ => throw .endless
  | _ + 1, _, [] => return []
  | fuel + 1, isFull, part :: rest => do
    let first ← (do
      match part with
      | .text chars isQuoted =>
        return (if isQuoted then [Glyph.quotes] else []) ++ Glyph.ofText isQuoted false chars
      | .output body isQuoted => return Glyph.ofValue isQuoted (← outputOf fuel body)
      | .arithmetic expression isQuoted =>
        let text := Glyph.text (← expand fuel false expression)
        return Glyph.ofValue isQuoted (← arithmetic text)
      | .parameter name form isQuoted =>
        parameter fuel isFull name form isQuoted : Run (List Glyph))
    return first ++ (← expand fuel isFull rest)

def parameter : (fuel : Nat) → (isFull : Bool) → (name : Chars) → Form → (isQuoted : Bool) →
    Run (List Glyph)
  | 0, _, _, _, _ => throw .endless
  | fuel + 1, isFull, name, form, isQuoted => do
    let isList := name = ['@'] || name = ['*']
    -- Arguments stay apart in fields, unless quotes or the lack of separators join them.
    let isApart ← (do
      if !isList || !isFull then return false
      else if isQuoted then return name = ['@']
      else return (← value? "IFS".toList).isSome : Run Bool)
    let args := (← shell).args
    let found ← (do
      if isApart then return some (['\x00'].intercalate args)
      else if isList then return some ((← joint).intercalate args)
      else parameterValue name : Run (Option Chars))
    let value (text : Chars) : List Glyph :=
      if isApart && !args.isEmpty then Glyph.ofArguments isQuoted (text.splitOn '\x00')
      else Glyph.ofValue isQuoted text
    let plain : Run (List Glyph) := do
      return if isApart && args.isEmpty then [] else value (found.getD [])
    let demandSet : Run Unit := do
      if found.isNone && (← isOn 'u') then
        fail (name ++ ": parameter not set".toList)
    let hasValue (isStrict : Bool) : Bool :=
      match found with
      | some value => !isStrict || !value.isEmpty
      | none => false
    let another (word : Word) : Run (List Glyph) := do
      let glyphs ← expand fuel isFull word
      return if isQuoted then glyphs else Glyph.loosened false glyphs
    match form with
    | .value =>
      demandSet
      plain
    | .length =>
      demandSet
      return Glyph.ofValue isQuoted (ofNat (found.getD []).length)
    | .otherwise isStrict word => if hasValue isStrict then plain else another word
    | .instead isStrict word =>
      if hasValue isStrict then another word else return Glyph.ofValue isQuoted []
    | .assign isStrict word =>
      if hasValue isStrict then plain
      else
        let value := Glyph.text (← expand fuel false word)
        if isName name then
          assign name value
          return Glyph.ofValue isQuoted value
        else fail (name ++ ": bad variable name".toList)
    | .demand isStrict word =>
      if hasValue isStrict then plain
      else
        let message := Glyph.text (← expand fuel false word)
        let message := if !message.isEmpty then message
          else ("parameter not set" ++ if isStrict then " or null" else "").toList
        fail (name ++ ": ".toList ++ message)
    | .trim side isLongest word =>
      demandSet
      let pattern := Glyph.letters (← expand fuel false word)
      return value (trimmed side isLongest pattern (found.getD []))
    | .bad => fail "Bad substitution".toList

/-- The output of commands, without the line ends behind it. -/
def outputOf : (fuel : Nat) → Option Command → Run Chars
  | 0, _ => throw .endless
  | fuel + 1, body => do
    match body with
    | none =>
      modifyShell fun shell => { shell with outputStatus := some 0 }
      return []
    | some body =>
      let (reader, writer, world) := (← world).newPipe []
      modifyWorld fun _ => world
      let status ← inCopy true (runTrap fuel) do
        connect 1 (.opened writer)
        run fuel .final body
      let text := (← Run.world).unread reader
      tellOf status
      modifyShell fun shell => { shell with outputStatus := some (codeOf status) }
      return ((text.filter (· ≠ '\x00')).reverse.dropWhile (· = '\n')).reverse

def fields : (fuel : Nat) → List Word → Run (List Chars)
  | 0, _ => throw .endless
  | _ + 1, [] => return []
  | fuel + 1, word :: rest => do
    let glyphs ← expand fuel true word
    let first ← fieldsFrom glyphs
    return first ++ (← fields fuel rest)

/-- The text of a word that is not split. -/
def textOf : (fuel : Nat) → Word → Run Chars
  | 0, _ => throw .endless
  | fuel + 1, word => do return Glyph.text (← expand fuel false word)

/-- The fields of the arguments of a command that sets variables: assignments among them
are not split. -/
def declared : (fuel : Nat) → List Word → Run (List Chars)
  | 0, _ => throw .endless
  | _ + 1, [] => return []
  | fuel + 1, word :: rest => do
    let first ← (do
      match assignment? word with
      | some (name, value) => return [name ++ '=' :: (← textOf fuel value)]
      | none => fields fuel [word] : Run (List Chars))
    return first ++ (← declared fuel rest)

/-- Follows redirections one by one; `false` behind a complaint. -/
def redirect : (fuel : Nat) → List Redirection → Run Bool
  | 0, _ => throw .endless
  | _ + 1, [] => return true
  | fuel + 1, .mk descriptor target :: rest => do
    let go (stream : Option Stream) : Run Bool := do
      match stream with
      | some stream =>
        connect descriptor stream
        redirect fuel rest
      | none => return false
    let duplicate (number : Nat) : Run Bool := do
      match (← shell).descriptors.lookup number with
      | some stream => go (some stream)
      | none =>
        complain (ofNat number ++ ": Bad file descriptor".toList)
        return false
    let close : Run Bool := do
      disconnect descriptor
      redirect fuel rest
    let empty (isThere : Bool) (opened : Opened) : Run Stream := do
      if isThere then modifyWorld fun world => world.setContent opened.number []
      newStream opened
    match target with
    | .read word => go (← openFile (← textOf fuel word) true fun _ => newStream)
    | .append word =>
      go (← openFile (← textOf fuel word) false fun _ opened =>
        newStream { opened with isAppending := true })
    | .write word => go (← openFile (← textOf fuel word) false empty)
    | .duplicate number => duplicate number
    | .duplicateWord word =>
      match ← textOf fuel word with
      | ['-'] => close
      | [c] =>
        if c.isDigit then duplicate (c.toNat - '0'.toNat)
        else fail "Syntax error: Bad fd number".toList
      | _ => fail "Syntax error: Bad fd number".toList
    | .close => close
    | .here number =>
      let word := ((← shell).texts.lookup number).getD []
      let text := Glyph.text (← expand fuel false word)
      let (reader, _, world) := (← world).newPipe text
      modifyWorld fun _ => world
      go (some (.opened reader))

def run : (fuel : Nat) → Mode → Command → Run Unit
  | 0, _, _ => throw .endless
  | fuel + 1, mode, command => do
    let checkFailure : Run Unit := do
      if !mode.isTested && (← shell).status ≠ 0 && (← isOn 'e') then throw .exited
    match command with
    | .simple line assignments words redirections =>
      simple fuel mode line assignments words redirections
      checkFailure
    | .pipeline [] => pure ()
    | .pipeline stages =>
      pipeline fuel stages
      checkFailure
    | .negation inner =>
      run fuel .tested inner
      setStatus (if (← shell).status = 0 then 1 else 0)
    | .both first second =>
      run fuel .tested first
      if (← shell).status = 0 then run fuel mode second
    | .either first second =>
      run fuel .tested first
      if (← shell).status ≠ 0 then run fuel mode second
    | .sequence first second =>
      run fuel { mode with isFinal := false } first
      run fuel mode second
    | .background inner => background fuel inner
    | .redirected line inner redirections =>
      modifyShell fun shell => { shell with line := line }
      let before := (← shell).descriptors
      let restore : Run Unit := modifyShell fun shell => { shell with descriptors := before }
      if ← redirect fuel redirections then
        tryCatch (run fuel { mode with isFinal := false } inner) fun stop => do
          restore
          throw stop
        restore
      else
        restore
        setStatus 2
    | .subshell line body redirections =>
      modifyShell fun shell => { shell with line := line }
      let isSame := mode.isFinal && (← shell).traps.isEmpty
      let status ← inCopy (!isSame) (runTrap fuel) do
        if ← redirect fuel redirections then run fuel { mode with isFinal := true } body
        else
          setStatus 2
          throw .failed
      if isSame then throw (.replaced status)
      ended status
      checkFailure
    | .branch test body otherwise =>
      run fuel .tested test
      if (← shell).status = 0 then run fuel mode body
      else
        match otherwise with
        | some other => run fuel mode other
        | none => setStatus 0
    | .loop isUntil test body =>
      modifyShell fun shell => { shell with loops := shell.loops + 1 }
      let status ← loop fuel mode isUntil test body 0
      modifyShell fun shell => { shell with loops := shell.loops - 1 }
      setStatus status
    | .each line name words body =>
      modifyShell fun shell => { shell with line := line }
      let values ← match words with
        | some words => fields fuel words
        | none => pure (← shell).args
      modifyShell fun shell => { shell with loops := shell.loops + 1 }
      let status ← each fuel mode name body values 0
      modifyShell fun shell => { shell with loops := shell.loops - 1 }
      setStatus status
    | .choice line subject cases =>
      modifyShell fun shell => { shell with line := line }
      let text ← textOf fuel subject
      choose fuel mode text cases
    | .function name body =>
      modifyShell fun shell =>
        { shell with functions := World.replace name body shell.functions }
      setStatus 0
    signals fuel

/-- Runs a body as long as a test succeeds or fails; gives the exit code. -/
def loop : (fuel : Nat) → Mode → (isUntil : Bool) → (test body : Command) → (status : Nat) →
    Run Nat
  | 0, _, _, _, _, _ => throw .endless
  | fuel + 1, mode, isUntil, test, body, status => do
    let loops := (← shell).loops
    let turn : Run (Option Stop) := do
      run fuel .tested test
      if ((← shell).status = 0) = isUntil then return some (.leave 0)
      else
        run fuel { mode with isFinal := false } body
        return none
    let outcome ← tryCatch turn fun stop => return some stop
    match outcome with
    | none => loop fuel mode isUntil test body (← shell).status
    | some (.leave 0) => return status
    | some (.leave 1) => return 0
    | some (.leave (n + 1)) =>
      modifyShell fun shell => { shell with loops := loops - 1 }
      throw (.leave n)
    | some (.again 1) =>
      modifyShell fun shell => { shell with loops := loops }
      loop fuel mode isUntil test body 0
    | some (.again (n + 1)) =>
      modifyShell fun shell => { shell with loops := loops - 1 }
      throw (.again n)
    | some stop => throw stop

/-- Runs a body for each of some values of a variable; gives the exit code. -/
def each : (fuel : Nat) → Mode → (name : Chars) → (body : Command) → List Chars →
    (status : Nat) → Run Nat
  | 0, _, _, _, _, _ => throw .endless
  | _ + 1, _, _, _, [], status => return status
  | fuel + 1, mode, name, body, value :: rest, _ => do
    let loops := (← shell).loops
    assign name value
    let outcome ← tryCatch
      (do
        run fuel { mode with isFinal := false } body
        return none)
      fun stop => return some stop
    match outcome with
    | none => each fuel mode name body rest (← shell).status
    | some (.leave 1) => return 0
    | some (.leave (n + 1)) =>
      modifyShell fun shell => { shell with loops := loops - 1 }
      throw (.leave n)
    | some (.again 1) =>
      modifyShell fun shell => { shell with loops := loops }
      each fuel mode name body rest 0
    | some (.again (n + 1)) =>
      modifyShell fun shell => { shell with loops := loops - 1 }
      throw (.again n)
    | some stop => throw stop

/-- Runs the first case that has a pattern which matches. -/
def choose : (fuel : Nat) → Mode → (text : Chars) → List (List Word × Option Command) → Run Unit
  | 0, _, _, _ => throw .endless
  | _ + 1, _, _, [] => setStatus 0
  | fuel + 1, mode, text, (patterns, body) :: rest => do
    let isHit ← patterns.anyM fun pattern => do
      let letters := Glyph.letters (← expand fuel false pattern)
      return isMatch letters text
    if isHit then
      match body with
      | some body => run fuel mode body
      | none => setStatus 0
    else choose fuel mode text rest

/-- Runs commands of which each one reads what the one before writes.  They all begin at
the same time. -/
def pipeline : (fuel : Nat) → List Command → Run Unit
  | 0, _ => throw .endless
  | fuel + 1, stages => do
    let start := (← world).now
    let count := stages.length
    let step := fun ((input, finish, _) : Option Stream × Nat × ExitStatus)
        ((stage, i) : Command × Nat) => do
      let (reader, writer, world) := (← world).newPipe []
      modifyWorld fun _ => { world with now := start }
      let isLast := i + 1 = count
      let act : Run ExitStatus := inCopy true (runTrap fuel) do
        match input with
        | some stream => connect 0 stream
        | none => pure ()
        if !isLast then connect 1 (.opened writer)
        run fuel .final stage
      let status ← tryCatch act fun stop => do
        match stop with
        | .endless => if isLast then throw stop else return .signalled 13
        | _ => throw stop
      tellOf status
      return (some (.opened reader), max finish (← Run.world).now, status)
    let (_, finish, status) ← stages.zipIdx.foldlM step (none, start, .exited 0)
    modifyWorld fun world => { world with now := finish }
    setStatus (codeOf status)

/-- Runs a command in the background; it begins a little later than what comes next. -/
def background : (fuel : Nat) → Command → Run Unit
  | 0, _ => throw .endless
  | fuel + 1, inner => do
    let before ← world
    let pid := before.nextPid
    modifyWorld fun world => { world with nextPid := pid + 1, now := before.now + 1 }
    let act : Run ExitStatus := inCopy true (runTrap fuel) do
      modifyShell fun shell => { shell with writer := pid }
      connect 0 .nothing
      run fuel .final inner
    let status ← tryCatch (some <$> act) fun stop => do
      match stop with
      | .endless => return none
      | _ => throw stop
    let now := (← world).now
    let finish := if status.isSome then now else before.now + 1000000000000000
    let (code, signal) := match status with
      | some (.exited code) => (code, none)
      | some (.signalled signal) => (128 + signal, some signal)
      | none => (0, none)
    modifyWorld fun world =>
      { world with
        now := before.now
        firstRest := before.firstRest
        jobs := ⟨pid, finish, code, signal⟩ :: world.jobs }
    modifyShell fun shell =>
      { shell with lastJob := some pid, jobs := pid :: shell.jobs, status := 0 }

def signals : (fuel : Nat) → Run Unit
  | 0 => throw .endless
  | fuel + 1 => do
    match ← received (← world).now with
    | none => return ()
    | some sent =>
      let traps := (← shell).traps
      match (if sent.signal = killSignal then none else traps.lookup sent.signal) with
      | some [] => signals fuel
      | some action =>
        let status := (← shell).status
        runTrap fuel action
        setStatus status
        signals fuel
      | none =>
        match disposition sent.signal with
        | .ends => throw (.killed sent.signal)
        | .ignored => signals fuel
        | .stops => throw .endless

/-- Runs what is to be done on a signal. -/
def runTrap : (fuel : Nat) → (action : Chars) → Run Unit
  | 0, _ => throw .endless
  | fuel + 1, action => runText fuel .plain action

def runText : (fuel : Nat) → Mode → Chars → Run Unit
  | 0, _, _ => throw .endless
  | fuel + 1, mode, text => do
    let texts := (← shell).texts
    let source := { Source.ofChars text with texts := texts, nextNumber := texts.length }
    if !(← script fuel mode source) then setStatus 0

/-- Runs a script from where it was read to; gives whether there was a command. -/
def script : (fuel : Nat) → Mode → Source → Run Bool
  | 0, _, _ => throw .endless
  | fuel + 1, mode, source => do
    match source.read with
    | .ended => return false
    | .fault fault =>
      modifyShell fun shell => { shell with line := fault.line }
      fail ("Syntax error: " ++ fault.message).toList
    | .line command after =>
      modifyShell fun shell => { shell with texts := after.texts }
      let isLast := match after.pushed with
        | some .ended => true
        | _ => false
      match command with
      | some command =>
        run fuel { mode with isFinal := mode.isFinal && isLast } command
        discard (script fuel mode after)
        return true
      | none => script fuel mode after

def simple : (fuel : Nat) → Mode → (line : Nat) → List (Chars × Word) → List Word →
    List Redirection → Run Unit
  | 0, _, _, _, _, _ => throw .endless
  | fuel + 1, mode, line, assignments, words, redirections => do
    modifyShell fun shell => { shell with line := line, outputStatus := none }
    let isDeclaring := match words with
      | [.text name _] :: _ =>
        ["export", "readonly", "local"].contains (String.ofList name)
      | _ => false
    let words ← if isDeclaring then declared fuel words else fields fuel words
    let before := (← shell).descriptors
    let restore : Run Unit := modifyShell fun shell => { shell with descriptors := before }
    let name := words.headD []
    let isSpecial := specialCommands.contains (String.ofList name)
    if !(← redirect fuel redirections) then
      restore
      setStatus 2
      if isSpecial then throw .failed
    else
      let values ← assignments.mapM fun (name, word) => do
        if words.isEmpty then
          let value ← textOf fuel word
          assign name value
          return (name, value)
        else return (name, ← textOf fuel word)
      trace (before.lookup 2) (values.map (fun (name, value) => name ++ '=' :: value) ++ words)
      if words.isEmpty then
        restore
        setStatus ((← shell).outputStatus.getD 0)
      else
        let act : Run Unit := execute fuel mode false words values
        tryCatch act fun stop => do
          restore
          throw stop
        if words ≠ ["exec".toList] then restore

/-- Runs a command by its words, with values of variables that hold for it. -/
def execute : (fuel : Nat) → Mode → (isCommand : Bool) → List Chars → List (Chars × Chars) →
    Run Unit
  | 0, _, _, _, _ => throw .endless
  | _ + 1, _, _, [], _ => return ()
  | fuel + 1, mode, isCommand, name :: args, values => do
    let text := String.ofList name
    let isSpecial := specialCommands.contains text
    let old := (← shell).bindings
    let put : Run Unit := do
      for (name, value) in values do
        assign name value
        let held := (← held? name).getD ⟨some value, false, false⟩
        putVariable name { held with isExported := held.isExported || !isSpecial }
    let putBack : Run Unit :=
      modifyShell fun shell =>
        { shell with
          bindings := values.foldl
            (fun all (name, _) =>
              match old.lookup name with
              | some held => World.replace name held all
              | none => all.filter (·.1 ≠ name))
            shell.bindings }
    let temporarily (act : Run Unit) : Run Unit := do
      put
      tryCatch act fun stop => do
        putBack
        throw stop
      putBack
    let functions := (← shell).functions
    let body? := if isCommand then none else functions.lookup name
    match body? with
    | some body => temporarily (call fuel mode body args)
    | none =>
      if Builtin.names.contains text then
        let act : Run Unit := own fuel mode text args
        if isSpecial && !isCommand then
          put
          act
        else
          temporarily (tryCatch act fun stop => if stop = .failed then pure () else throw stop)
      else
        match ← (do
            -- A value for `PATH` holds for finding the program.
            let found : Run (Except PathFault (Chars × String)) := do
              put
              Builtin.findProgram name
            let result ← found
            putBack
            return result : Run (Except PathFault (Chars × String))) with
        | .error fault =>
          let isMissing := fault = .missing || fault = .notFolder
          complain (name ++ ": ".toList ++
            (if isMissing then "not found" else fault.message).toList)
          setStatus (if isMissing || !name.contains '/' then 127 else 126)
        | .ok (_, program) =>
          let isSame := mode.isFinal && (← shell).traps.isEmpty
          let status ← apart do
            put
            launch fuel program name args
          if isSame then throw (.replaced status)
          ended status

def call : (fuel : Nat) → Mode → (body : Command) → (args : List Chars) → Run Unit
  | 0, _, _, _ => throw .endless
  | fuel + 1, mode, body, args => do
    let old ← shell
    if 1000 ≤ old.depth then throw .endless
    modifyShell fun shell =>
      { shell with
        args := args, loops := 0, depth := shell.depth + 1
        scopes := [] :: shell.scopes }
    let leave : Run Unit :=
      modifyShell fun shell =>
        let saved := shell.scopes.headD []
        let back := saved.foldl
          (fun (shell : Interpreter) (name, held) =>
            match name, held with
            | ['-'], some letters => { shell with options := letters.value.getD [] }
            | _, some held => { shell with bindings := World.replace name held shell.bindings }
            | _, none => { shell with bindings := shell.bindings.filter (·.1 ≠ name) })
          shell
        { back with
          args := old.args, loops := old.loops, depth := old.depth, scopes := old.scopes }
    tryCatch (run fuel { mode with isFinal := false } body) fun stop => do
      match stop with
      | .returned => pure ()
      | .killed _ | .exited | .failed => throw stop
      | _ =>
        leave
        throw stop
    leave

/-- Runs one of the shell's own commands. -/
def own : (fuel : Nat) → Mode → (name : String) → (args : List Chars) → Run Unit
  | 0, _, _, _ => throw .endless
  | fuel + 1, mode, name, args => speakingAs (some name.toList) do
    match name with
    | "eval" =>
      if args.isEmpty then setStatus 0
      else runText fuel { mode with isFinal := false } (Tool.spaced args)
    | "exec" =>
      match args with
      | [] => setStatus 0
      | name :: args =>
        match ← Builtin.findProgram name with
        | .error fault =>
          let isMissing := fault = .missing || fault = .notFolder
          failWith (if isMissing then 127 else 126)
            (name ++ ": ".toList ++ (if isMissing then "not found" else fault.message).toList)
        | .ok (_, program) =>
          let status ← apart (launch fuel program name args)
          throw (.replaced status)
    | "command" =>
      let (_, operands) ← Builtin.takeOptions ['p'] args
      if operands.isEmpty then setStatus 0
      else speakingAs none (execute fuel mode true operands [])
    | _ => setStatus (← Builtin.run name args)

def launch : (fuel : Nat) → (program : String) → (name : Chars) → (args : List Chars) →
    Run ExitStatus
  | 0, _, _, _ => throw .endless
  | fuel + 1, program, name, args => do
    modifyShell fun shell => { shell with speaker := none }
    match program with
    | "sh" | "dash" => shellProgram fuel name args
    | "env" => withEnvironment (startProgram (launch fuel) name) name args
    | _ =>
      tryCatch (runTool program name args) fun stop => do
        if stop = .failed then return .exited 1 else throw stop

/-- Runs a shell of its own. -/
def shellProgram : (fuel : Nat) → (name : Chars) → (args : List Chars) → Run ExitStatus
  | 0, _, _ => throw .endless
  | fuel + 1, name, args => apart do
    let outer ← shell
    let given ← environment
    let pid := (← world).nextPid
    modifyWorld fun world => { world with nextPid := pid + 1, shells := pid :: world.shells }
    modifyShell fun _ =>
      Interpreter.first name pid outer.pid outer.descriptors outer.folder outer.writer given
    let act : Run Unit := do
      match ← scriptOf args with
      | .command text => runText fuel .plain text
      | .input => runText fuel .plain (← readAll 0)
      | .file path =>
        match contentOf (← get) path with
        | .ok text =>
          modifyShell fun shell => { shell with name := path }
          runText fuel .plain text
        | .error .folder => pure ()
        | .error _ => fail ("cannot open ".toList ++ path ++ ": No such file".toList)
    let status ← finishing (runTrap fuel) act
    modifyWorld fun world => { world with shells := world.shells.filter (· ≠ pid) }
    return status

end

end BrowserBridge.Shell
