import BrowserBridge.Shell.Syntax

/-!
Reading commands.  A script is read one complete command after the other, so that a
mistake in a later line shows only when the lines before it have run.
-/

namespace BrowserBridge.Shell

/-- A mistake in a script, and the line that reading had come to. -/
structure SyntaxFault where
  line : Nat
  message : String

inductive Token where
  | ended
  | newline
  | operator (text : String)
  | keyword (text : String)
  /-- A redirection of a descriptor, if one is named. -/
  | redirection (descriptor : Option Nat) (operator : String)
  | word (parts : Word) (isQuoted : Bool)

namespace Token

/-- What a token is called in messages. -/
def describe : Token → String
  | ended => "end of file"
  | newline => "newline"
  | operator text => "\"" ++ text ++ "\""
  | keyword text => "\"" ++ text ++ "\""
  | redirection _ _ => "redirection"
  | word _ _ => "word"

/-- Whether a token ends a list of commands that may be empty. -/
def endsList : Token → Bool
  | ended => true
  | operator text => [")", ";;"].contains text
  | keyword text => ["do", "done", "elif", "else", "esac", "fi", "then", "\x7d"].contains text
  | _ => false

end Token

/-- The words that have a meaning of their own where a command begins. -/
def keywords : List String :=
  ["!", "case", "do", "done", "elif", "else", "esac", "fi", "for", "if", "in", "then", "until",
   "while", "\x7b", "\x7d"]

/-- A text in the script that a redirection announced. -/
structure Announced where
  number : Nat
  ending : Chars
  /-- Whether parameters in it are replaced. -/
  isExpanded : Bool
  /-- Whether tabs at the beginning of its lines are dropped. -/
  isIndented : Bool

/-- A script in the middle of being read. -/
structure Source where
  rest : Chars
  line : Nat
  /-- A token that was read and put back. -/
  pushed : Option Token
  /-- The token that was read last. -/
  last : Token
  announced : List Announced
  /-- The texts that were read for redirections, by their numbers. -/
  texts : List (Nat × Word)
  nextNumber : Nat

def Source.ofChars (text : Chars) : Source := ⟨text, 1, none, .ended, [], [], 0⟩

/-- Reading a script.  What was read before a mistake is not kept. -/
abbrev Parse := StateT Source (Except SyntaxFault)

namespace Parse

/-- Gives a mistake up. -/
def fail {α : Type} (message : String) : Parse α := do
  throw ⟨(← get).line, message⟩

def unexpected {α : Type} (expected : Option String) : Parse α := do
  let text := (← get).last.describe ++ " unexpected"
  match expected with
  | some token => fail (text ++ " (expecting \"" ++ token ++ "\")")
  | none => fail text

def next : Parse (Option Char) := do
  let source ← get
  match source.rest with
  | [] => return none
  | c :: rest =>
    set { source with rest := rest, line := if c = '\n' then source.line + 1 else source.line }
    return some c

/-- Drops line ends behind a backslash; `fuel` bounds how many. -/
def joinLines : (fuel : Nat) → Parse Unit
  | 0 => return ()
  | fuel + 1 => do
    match (← get).rest with
    | '\\' :: '\n' :: rest =>
      modify fun source => { source with rest := rest, line := source.line + 1 }
      joinLines fuel
    | _ => return ()

/-- The next character, over lines that are joined. -/
def peek : Parse (Option Char) := do
  joinLines (← get).rest.length
  return (← get).rest.head?

def skip : Parse Unit := discard next

/-- Takes characters as long as they have a property. -/
def takeName (property : Char → Bool) : (fuel : Nat) → Parse Chars
  | 0 => return []
  | fuel + 1 => do
    match ← peek with
    | some c =>
      if property c then
        skip
        return c :: (← takeName property fuel)
      else return []
    | none => return []

/-- Takes the characters before a given one, and drops that one; `none` if it does not
come. -/
def takeBefore (stop : Char) : Parse (Option Chars) := do
  let source ← get
  let (front, behind) := source.rest.span (· ≠ stop)
  match behind with
  | [] =>
    set { source with rest := [], line := source.line + front.count '\n' }
    return none
  | _ :: rest =>
    set { source with rest := rest, line := source.line + front.count '\n' }
    return some front

end Parse

/-- Puts texts that stand side by side and are quoted alike together. -/
def glue : List Part → List Part
  | [] => []
  | part :: rest =>
    match part, glue rest with
    | .text a p, .text b q :: others =>
      if p = q then .text (a ++ b) p :: others else part :: .text b q :: others
    | _, others => part :: others

/-- Where a part of a word stands. -/
inductive Place where
  | bare
  /-- The word that ends a text in the script; nothing in it is replaced. -/
  | ending
  | double
  | brace
  | quotedBrace
  /-- Arithmetic between so many parentheses. -/
  | arithmetic (depth : Nat)
  /-- A text in the script. -/
  | here
  deriving DecidableEq

namespace Place

def isQuoted : Place → Bool
  | bare | ending | brace => false
  | _ => true

end Place

/-- Whether a character ends a bare word. -/
def endsWord (c : Char) : Bool :=
  [' ', '\t', '\n', ';', '&', '|', '(', ')', '<', '>'].contains c

def plainText (word : Word) : Chars :=
  word.flatMap fun
    | .text chars _ => chars
    | _ => []

/-- The assignment that a word is: the name of a variable and an equals sign without
quotes in front of a value. -/
def assignment? (word : Word) : Option (Chars × Word) :=
  match word with
  | .text chars false :: rest =>
    let (name, behind) := chars.span isNameChar
    match behind with
    | '=' :: value =>
      if isName name then some (name, if value.isEmpty then rest else .text value false :: rest)
      else none
    | _ => none
  | _ => none

/-- Removes the backslashes that protect characters of commands between backquotes. -/
def unprotect (isQuoted : Bool) : Chars → Chars
  | '\\' :: c :: rest =>
    if c = '\\' || c = '$' || c = '\x60' || (isQuoted && c = '"') then c :: unprotect isQuoted rest
    else '\\' :: c :: unprotect isQuoted rest
  | c :: rest => c :: unprotect isQuoted rest
  | [] => []

/-- Splits a text at the first backquote without a backslash. -/
def splitAtBackquote : Chars → Option (Chars × Chars)
  | [] => none
  | '\x60' :: rest => some ([], rest)
  | '\\' :: c :: rest => (splitAtBackquote rest).map fun (a, b) => ('\\' :: c :: a, b)
  | c :: rest => (splitAtBackquote rest).map fun (a, b) => (c :: a, b)

/-- Takes the lines of a text in the script off what is left of it. -/
def takeHere (announced : Announced) : List Chars → Chars × List Chars × Nat
  | [] => ([], [], 0)
  | line :: rest =>
    let line := if announced.isIndented then line.dropWhile (· = '\t') else line
    if line = announced.ending then ([], rest, 1)
    else
      match rest with
      | [] => (line, [], 0)
      | _ =>
        let (text, rest, lines) := takeHere announced rest
        (line ++ '\n' :: text, rest, lines + 1)

namespace Parse

mutual

/-- Reads the parts of a word to its end; `fuel` bounds the steps. -/
def parts : (fuel : Nat) → Place → Parse (List Part)
  | 0, _ => fail "Unterminated quoted string"
  | fuel + 1, place => do
    let char (c : Char) (isQuoted : Bool) (place : Place) : Parse (List Part) := do
      return .text [c] isQuoted :: (← parts fuel place)
    match (← get).rest with
    | [] =>
      match place with
      | .bare | .ending | .here => return []
      | .brace => fail "Missing '\x7d'"
      | .arithmetic _ => fail "Missing '))'"
      | .double | .quotedBrace => fail "Unterminated quoted string"
    | c :: rest =>
      if (place = .bare || place = .ending) && endsWord c then return []
      else if c = '\\' then
        skip
        match rest with
        | [] => char '\\' false place
        | '\n' :: _ =>
          skip
          parts fuel place
        | escaped :: _ =>
          skip
          let isRemoved := match place with
            | .bare | .ending | .brace => true
            | .double => ['\\', '\x60', '$', '"'].contains escaped
            | .quotedBrace => ['\\', '\x60', '$', '"', '\x7d'].contains escaped
            | .here | .arithmetic _ => ['\\', '\x60', '$'].contains escaped
          if isRemoved then char escaped true place
          else return .text ['\\', escaped] true :: (← parts fuel place)
      else if c = '\'' && !place.isQuoted then
        skip
        match ← takeBefore '\'' with
        | some quoted => return .text quoted true :: (← parts fuel place)
        | none => fail "Unterminated quoted string"
      else if c = '"' && place ≠ .here then
        skip
        if place = .double then return []
        else
          match place with
          | .arithmetic _ => parts fuel place
          | _ =>
            let inner ← parts fuel .double
            return (if inner.isEmpty then [.text [] true] else inner) ++ (← parts fuel place)
      else if c = '$' && place ≠ .ending then
        skip
        let part ← dollar fuel place
        return part :: (← parts fuel place)
      else if c = '\x60' && place ≠ .ending then
        skip
        match splitAtBackquote rest with
        | none =>
          modify fun source => { source with line := source.line + rest.count '\n' }
          fail "EOF in backquote substitution"
        | some (inner, behind) =>
          let source ← get
          -- The lines of the commands are counted from one again.
          let inside := unprotect (place == Place.double) inner
          set { source with rest := inside, pushed := none, line := 1 }
          let body ← commands fuel false true
          let line := source.line + inner.count '\n'
          modify fun after => { after with rest := behind, pushed := none, line := line }
          return .output body place.isQuoted :: (← parts fuel place)
      else if c = '\x7d' && (place = .brace || place = .quotedBrace) then
        skip
        return []
      else
        match place with
        | .arithmetic depth =>
          skip
          if c = '(' then char c true (.arithmetic (depth + 1))
          else if c = ')' then
            if 0 < depth then char c true (.arithmetic (depth - 1))
            else if (← peek) = some ')' then
              skip
              return []
            else char c true place
          else char c true place
        | _ =>
          skip
          char c place.isQuoted place

def dollar : (fuel : Nat) → Place → Parse Part
  | 0, _ => fail "Missing '\x7d'"
  | fuel + 1, place => do
    let isQuoted := place.isQuoted
    match ← peek with
    | some '(' =>
      skip
      if (← peek) = some '(' then
        skip
        return .arithmetic (glue (← parts fuel (.arithmetic 0))) isQuoted
      else
        let outer ← get
        set { outer with pushed := none }
        let body ← commands fuel false true
        match ← token fuel false false with
        | .operator ")" => return .output body isQuoted
        | _ => unexpected (some ")")
    | some '{' =>
      skip
      let (name, form) ← braced fuel place
      return .parameter name form isQuoted
    | some c =>
      if isNameStart c then
        return .parameter (← takeName isNameChar (← get).rest.length) .value isQuoted
      else if c.isDigit || isSpecial c then
        skip
        return .parameter [c] .value isQuoted
      else return .text ['$'] isQuoted
    | none => return .text ['$'] isQuoted

/-- Reads a parameter and its form up to the closing brace. -/
def braced : (fuel : Nat) → Place → Parse (Chars × Form)
  | 0, _ => fail "Missing '\x7d'"
  | fuel + 1, place => do
    let length := (← get).rest.length
    let name : Parse Chars := do
      match ← peek with
      | some c =>
        if isNameStart c then takeName isNameChar length
        else if c.isDigit then takeName Char.isDigit length
        else if isSpecial c then
          skip
          return [c]
        else return []
      | none => return []
    let wordPlace := if place.isQuoted then Place.quotedBrace else .brace
    let word (place : Place) : Parse Word := do return glue (← parts fuel place)
    let bad (name : Chars) : Parse (Chars × Form) := do
      discard (word wordPlace)
      return (name, .bad)
    let formOf (name : Chars) : Parse (Chars × Form) := do
      let form (isStrict : Bool) : Parse (Chars × Form) := do
        match ← peek with
        | some '-' =>
          skip
          return (name, .otherwise isStrict (← word wordPlace))
        | some '=' =>
          skip
          return (name, .assign isStrict (← word wordPlace))
        | some '?' =>
          skip
          return (name, .demand isStrict (← word wordPlace))
        | some '+' =>
          skip
          return (name, .instead isStrict (← word wordPlace))
        | _ =>
          skip
          bad name
      match ← peek with
      | some '\x7d' =>
        skip
        return (name, .value)
      | some ':' =>
        skip
        form true
      | some '%' =>
        skip
        if (← peek) = some '%' then
          skip
          return (name, .trim .back true (← word .brace))
        else return (name, .trim .back false (← word .brace))
      | some '#' =>
        skip
        if (← peek) = some '#' then
          skip
          return (name, .trim .front true (← word .brace))
        else return (name, .trim .front false (← word .brace))
      | _ => form false
    match ← peek with
    | some '#' =>
      skip
      match ← peek with
      | some c =>
        if isNameChar c then
          let name ← name
          if (← peek) = some '\x7d' then
            skip
            return (name, .length)
          else bad name
        else if isSpecial c then
          match (← get).rest with
          | _ :: '\x7d' :: _ =>
            skip
            skip
            return ([c], .length)
          | _ => formOf ['#']
        else formOf ['#']
      | none => formOf ['#']
    | _ =>
      let name ← name
      if name.isEmpty then bad name else formOf name

/-- Reads a token.  `skipsLines` says whether line ends before it are dropped, and
`knowsKeywords` whether it can be a keyword. -/
def token : (fuel : Nat) → (skipsLines knowsKeywords : Bool) → Parse Token
  | 0, _, _ => return .ended
  | fuel + 1, skipsLines, knowsKeywords => do
    let pushed := (← get).pushed
    let found ← match pushed with
      | some token =>
        modify fun source => { source with pushed := none }
        pure token
      | none => freshToken fuel
    match found with
    | .newline =>
      if skipsLines then token fuel skipsLines knowsKeywords
      else
        modify fun source => { source with last := .newline }
        return .newline
    | .word [.text chars false] false =>
      let text := String.ofList chars
      let found := if knowsKeywords && keywords.contains text then .keyword text else found
      modify fun source => { source with last := found }
      return found
    | _ =>
      modify fun source => { source with last := found }
      return found

/-- Reads a token that was not put back. -/
def freshToken : (fuel : Nat) → Parse Token
  | 0 => return .ended
  | fuel + 1 => do
    let follows (second : Char) (one two : String) : Parse Token := do
      if (← peek) = some second then
        skip
        return .operator two
      else return .operator one
    match ← peek with
    | none =>
      hereTexts fuel
      return .ended
    | some c =>
      if c = ' ' || c = '\t' then
        skip
        freshToken fuel
      else if c = '#' then
        modify fun source => { source with rest := source.rest.dropWhile (· ≠ '\n') }
        freshToken fuel
      else if c = '\n' then
        skip
        hereTexts fuel
        return .newline
      else if c = '&' then
        skip
        follows '&' "&" "&&"
      else if c = '|' then
        skip
        follows '|' "|" "||"
      else if c = ';' then
        skip
        follows ';' ";" ";;"
      else if c = '(' || c = ')' then
        skip
        return .operator c.toString
      else if c = '<' || c = '>' then redirectionToken none
      else
        let before := (← get).rest
        let word := glue (← parts fuel .bare)
        let isQuoted := (before.take (before.length - (← get).rest.length)).any
          ['\\', '\'', '"'].contains
        match word, (← get).rest.head? with
        | [.text [digit] false], some next =>
          if digit.isDigit && (next = '<' || next = '>') then
            redirectionToken (some (digit.toNat - '0'.toNat))
          else return .word word isQuoted
        | _, _ => return .word word isQuoted

/-- Reads the operator of a redirection. -/
def redirectionToken (descriptor : Option Nat) : Parse Token := do
  let first ← next
  let second ← peek
  let operator := if first = some '<' then "<" else ">"
  match first, second with
  | some '<', some '<' =>
    skip
    if (← peek) = some '-' then
      skip
      return .redirection descriptor "<<-"
    else return .redirection descriptor "<<"
  | some '<', some '&' => skip; return .redirection descriptor "<&"
  | some '>', some '>' => skip; return .redirection descriptor ">>"
  | some '>', some '&' => skip; return .redirection descriptor ">&"
  | _, _ => return .redirection descriptor operator

/-- Reads the texts that redirections announced. -/
def hereTexts : (fuel : Nat) → Parse Unit
  | 0 => return ()
  | fuel + 1 => do
    let source ← get
    match source.announced with
    | [] => return ()
    | announced :: others =>
      let (text, rest, lines) := takeHere announced (source.rest.splitOn '\n')
      let rest := ['\n'].intercalate rest
      let word ←
        if announced.isExpanded then do
          set { source with rest := text, announced := [] }
          let word := glue (← parts fuel .here)
          pure word
        else pure [.text text true]
      modify fun after =>
        { after with
          rest := rest
          line := source.line + lines
          announced := others
          texts := (announced.number, word) :: after.texts }
      hereTexts fuel

def putBack (token : Token) : Parse Unit :=
  modify fun source => { source with pushed := some token }

def redirection : (fuel : Nat) → (descriptor : Option Nat) → (operator : String) →
    Parse Redirection
  | 0, _, _ => unexpected none
  | fuel + 1, descriptor, operator => do
    let standard := if operator.startsWith "<" then 0 else 1
    let descriptor := descriptor.getD standard
    if operator = "<<" || operator = "<<-" then
      modify fun source =>
        { source with rest := source.rest.dropWhile fun c => c = ' ' || c = '\t' }
      match ← peek with
      | some c =>
        if !endsWord c then
          let before := (← get).rest
          let word ← parts fuel .ending
          let isQuoted := (before.take (before.length - (← get).rest.length)).any
            ['\\', '\'', '"'].contains
          let number := (← get).nextNumber
          modify fun source =>
            { source with
              nextNumber := number + 1
              announced := source.announced ++
                [⟨number, plainText word, !isQuoted, operator = "<<-"⟩] }
          return .mk descriptor (.here number)
        else
          discard (token fuel false false)
          unexpected none
      | none =>
        discard (token fuel false false)
        unexpected none
    else
      match ← token fuel false false with
      | .word word _ =>
        match operator with
        | "<" => return .mk descriptor (.read word)
        | ">" => return .mk descriptor (.write word)
        | ">>" => return .mk descriptor (.append word)
        | _ =>
          match word with
          | [.text [c] _] =>
            if c.isDigit then return .mk descriptor (.duplicate (c.toNat - '0'.toNat))
            else if c = '-' then return .mk descriptor .close
            else return .mk descriptor (.duplicateWord word)
          | _ => return .mk descriptor (.duplicateWord word)
      | _ => unexpected none

def redirections : (fuel : Nat) → Parse (List Redirection)
  | 0 => return []
  | fuel + 1 => do
    match ← token fuel false true with
    | .redirection descriptor operator =>
      let first ← redirection fuel descriptor operator
      return first :: (← redirections fuel)
    | other =>
      putBack other
      return []

/-- Reads a list of commands.  At the top a line end ends it; else `mayEnd` says
whether it may end here. -/
def commands : (fuel : Nat) → (isTop mayEnd : Bool) → Parse (Option Command)
  | 0, _, _ => return none
  | fuel + 1, isTop, mayEnd => do
    let first ← token fuel (!isTop) true
    match first with
    | .newline => return none
    | .ended =>
      putBack .ended
      return none
    | _ =>
      putBack first
      if !isTop && mayEnd && first.endsList then return none
      else
        let command ← chain fuel
        let separator ← token fuel false false
        let join (command : Command) : Parse (Option Command) := do
          match ← commands fuel isTop true with
          | some others => return some (.sequence command others)
          | none => return some command
        match separator with
        | .operator "&" => join (.background command)
        | .operator ";" => join command
        | .ended =>
          putBack .ended
          return some command
        | .newline =>
          if isTop then return some command else join command
        | _ =>
          if isTop then unexpected none
          else
            putBack separator
            return some command

def chain : (fuel : Nat) → Parse Command
  | 0 => unexpected none
  | fuel + 1 => do
    chainFrom fuel (← pipeline fuel)

/-- Reads what follows a pipeline in a chain. -/
def chainFrom : (fuel : Nat) → Command → Parse Command
  | 0, first => return first
  | fuel + 1, first => do
    match ← token fuel false false with
    | .operator "&&" => chainFrom fuel (.both first (← pipeline fuel))
    | .operator "||" => chainFrom fuel (.either first (← pipeline fuel))
    | other =>
      putBack other
      return first

def pipeline : (fuel : Nat) → Parse Command
  | 0 => unexpected none
  | fuel + 1 => do
    let first ← token fuel true true
    let isNegated := match first with
      | .keyword "!" => true
      | _ => false
    if !isNegated then putBack first
    let stage ← command fuel
    let others ← stages fuel
    let whole := if others.isEmpty then stage else .pipeline (stage :: others)
    return if isNegated then .negation whole else whole

/-- Reads the further commands of a pipeline. -/
def stages : (fuel : Nat) → Parse (List Command)
  | 0 => return []
  | fuel + 1 => do
    match ← token fuel false false with
    | .operator "|" =>
      let stage ← command fuel
      return stage :: (← stages fuel)
    | other =>
      putBack other
      return []

def command : (fuel : Nat) → Parse Command
  | 0 => unexpected none
  | fuel + 1 => do
    let body : Parse Command := do
      match ← commands fuel false false with
      | some body => return body
      | none => return .pipeline []
    let expect (word : String) : Parse Unit := do
      match ← token fuel false true with
      | .keyword text => if text ≠ word then unexpected (some word)
      | _ => unexpected (some word)
    let redirect (command : Command) : Parse Command := do
      let line := (← get).line
      match ← redirections fuel with
      | [] => return command
      | found =>
        match command with
        | .subshell line body _ => return .subshell line body found
        | _ => return .redirected line command found
    let first ← token fuel true true
    let line := (← get).line
    match first with
    | .keyword "if" =>
      let found ← branches fuel
      redirect found
    | .keyword "while" =>
      let test ← body
      expect "do"
      let inner ← body
      expect "done"
      redirect (.loop false test inner)
    | .keyword "until" =>
      let test ← body
      expect "do"
      let inner ← body
      expect "done"
      redirect (.loop true test inner)
    | .keyword "for" =>
      match ← token fuel false false with
      | .word [.text name false] false =>
        if !isName name then fail "Bad for loop variable"
        else
          let words ← (do
            match ← token fuel true true with
            | .keyword "in" =>
              let words ← wordList fuel
              match (← get).last with
              | .newline | .operator ";" => return some words
              | _ => unexpected none
            | .operator ";" => return none
            | other =>
              putBack other
              return none : Parse (Option (List Word)))
          match ← token fuel true true with
          | .keyword "do" =>
            let inner ← body
            expect "done"
            redirect (.each line name words inner)
          | _ => unexpected (some "do")
      | _ => fail "Bad for loop variable"
    | .keyword "case" =>
      match ← token fuel false false with
      | .word subject _ =>
        match ← token fuel true true with
        | .keyword "in" =>
          let found ← cases fuel
          redirect (.choice line subject found)
        | _ => unexpected (some "in")
      | _ => fail ((← get).last.describe ++ " unexpected (expecting word)")
    | .keyword "\x7b" =>
      let inner ← body
      expect "\x7d"
      redirect inner
    | .operator "(" =>
      let inner ← body
      match ← token fuel false true with
      | .operator ")" => redirect (.subshell line inner [])
      | _ => unexpected (some ")")
    | .word _ _ | .redirection _ _ =>
      putBack first
      simple fuel line [] [] []
    | _ => unexpected none

/-- Reads the tests and bodies of a branching up to its end. -/
def branches : (fuel : Nat) → Parse Command
  | 0 => unexpected none
  | fuel + 1 => do
    let body : Parse Command := do
      match ← commands fuel false false with
      | some body => return body
      | none => return .pipeline []
    let test ← body
    match ← token fuel false true with
    | .keyword "then" =>
      let inner ← body
      match ← token fuel false true with
      | .keyword "elif" => return .branch test inner (some (← branches fuel))
      | .keyword "else" =>
        let other ← body
        match ← token fuel false true with
        | .keyword "fi" => return .branch test inner (some other)
        | _ => unexpected (some "fi")
      | .keyword "fi" => return .branch test inner none
      | _ => unexpected (some "fi")
    | _ => unexpected (some "then")

def wordList : (fuel : Nat) → Parse (List Word)
  | 0 => return []
  | fuel + 1 => do
    match ← token fuel false false with
    | .word word _ => return word :: (← wordList fuel)
    | _ => return []

/-- Reads the cases of a choice. -/
def cases : (fuel : Nat) → Parse (List (List Word × Option Command))
  | 0 => unexpected none
  | fuel + 1 => do
    match ← token fuel true true with
    | .keyword "esac" => return []
    | first =>
      let first ← (do
        match first with
        | .operator "(" => token fuel false false
        | other => return other : Parse Token)
      let patterns ← patterns fuel first
      match (← get).last with
      | .operator ")" =>
        let inner ← commands fuel false true
        match ← token fuel true true with
        | .keyword "esac" => return [(patterns, inner)]
        | .operator ";;" => return (patterns, inner) :: (← cases fuel)
        | _ => unexpected (some ";;")
      | _ => unexpected (some ")")

/-- Reads the patterns of a case, from the first one, up to the token behind them. -/
def patterns : (fuel : Nat) → Token → Parse (List Word)
  | 0, _ => return []
  | fuel + 1, first => do
    let word : Word := match first with
      | .word word _ => word
      | .keyword text => [.text text.toList false]
      | _ => []
    match ← token fuel false false with
    | .operator "|" =>
      let second ← token fuel false false
      return word :: (← patterns fuel second)
    | _ => return [word]

def simple : (fuel : Nat) → (line : Nat) → List (Chars × Word) → List Word →
    List Redirection → Parse Command
  | 0, line, assignments, words, found => return .simple line assignments words found
  | fuel + 1, line, assignments, words, found => do
    match ← token fuel false false with
    | .word word _ =>
      match if words.isEmpty then assignment? word else none with
      | some assigned => simple fuel line (assignments ++ [assigned]) words found
      | none => simple fuel line assignments (words ++ [word]) found
    | .redirection descriptor operator =>
      let one ← redirection fuel descriptor operator
      simple fuel line assignments words (found ++ [one])
    | .operator "(" =>
      match assignments, words, found with
      | [], [name], [] =>
        match ← token fuel false false with
        | .operator ")" =>
          match name with
          | [.text chars false] =>
            if isName chars && !specialCommands.contains (String.ofList chars) then
              return .function chars (← command fuel)
            else fail "Bad function name"
          | _ => fail "Bad function name"
        | _ => unexpected (some ")")
      | _, _, _ =>
        putBack (.operator "(")
        return .simple line assignments words found
    | other =>
      putBack other
      return .simple line assignments words found

end

end Parse

/-- What reading on gives. -/
inductive Reading where
  | ended
  /-- A line, which may be empty. -/
  | line (command : Option Command) (source : Source)
  | fault (fault : SyntaxFault)

/-- Reads the next complete command of a script. -/
def Source.read (source : Source) : Reading :=
  let source := { source with pushed := none }
  match (Parse.commands (20 * source.rest.length + 20) true false).run source with
  | .error fault => .fault fault
  | .ok (none, after) =>
    match after.pushed with
    | some .ended => .ended
    | _ => .line none after
  | .ok (some command, after) => .line (some command) after

end BrowserBridge.Shell
