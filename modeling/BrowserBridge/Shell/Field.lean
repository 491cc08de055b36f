import BrowserBridge.Shell.Pattern
import BrowserBridge.Shell.World

/-!
From words to fields.  A word that was expanded is a list of glyphs; it is split at the
separators among what came from outside of quotes.
-/

namespace BrowserBridge.Shell

/-- A piece of a word that was expanded. -/
inductive Glyph where
  /-- A character, and whether the word can be split at it. -/
  | letter (letter : Letter) (canSplit : Bool)
  /-- The place between two arguments. -/
  | gap
  /-- The beginning of a value that can be split, or of arguments in quotes. -/
  | opening (isArguments : Bool)
  /-- Quotes, which make a field even if there is nothing between them. -/
  | quotes
  deriving DecidableEq

namespace Glyph

def ofText (isQuoted canSplit : Bool) (text : Chars) : List Glyph :=
  text.map fun c => .letter ⟨c, isQuoted⟩ canSplit

/-- The glyphs of the value of a parameter. -/
def ofValue (isQuoted : Bool) (text : Chars) : List Glyph :=
  if isQuoted then .quotes :: ofText true false text else .opening false :: ofText false true text

/-- The glyphs of arguments that stay apart. -/
def ofArguments (isQuoted : Bool) (args : List Chars) : List Glyph :=
  .opening isQuoted :: [gap].intercalate (args.map fun arg =>
    (if isQuoted then [quotes] else []) ++ ofText isQuoted (!isQuoted) arg)

/-- The glyphs of a word for another value, which can be split where there are no
quotes.  `isOpen` says whether what came just before can be split because of that. -/
def loosened (isOpen : Bool) : List Glyph → List Glyph
  | [] => []
  | letter found canSplit :: rest =>
    if canSplit || found.isQuoted then letter found canSplit :: loosened false rest
    else (if isOpen then [] else [opening false]) ++ letter found true :: loosened true rest
  | other :: rest => other :: loosened false rest

def letters (glyphs : List Glyph) : List Letter :=
  glyphs.filterMap fun
    | letter found _ => some found
    | gap | opening _ | quotes => none

def text (glyphs : List Glyph) : Chars := (letters glyphs).map (·.char)

end Glyph

/-- Whether a character separates fields and is a blank. -/
def isBlankSeparator (separators : Chars) (c : Char) : Bool :=
  separators.contains c && (c = ' ' || c = '\t' || c = '\n')

/-- What is known while glyphs are split. -/
structure Splitting where
  /-- The field that was begun, last letter first. -/
  current : Option (List Letter) := none
  /-- Whether blanks have ended a field just now, so that another separator still belongs
  to its end. -/
  isPending : Bool := false
  /-- Whether every separator ends a field, even a blank behind another one. -/
  isSharp : Bool := false
  /-- Whether the value that was begun last are arguments in quotes. -/
  isArguments : Bool := false

/-- The field that a separator ends, and what is known behind the separator. -/
def Splitting.separated (splitting : Splitting) (isBlank : Bool) :
    Option (List Letter) × Splitting :=
  match splitting.current with
  | some letters =>
    (some letters.reverse,
      { splitting with current := none, isPending := isBlank && !splitting.isSharp })
  | none =>
    if splitting.isSharp then (some [], splitting)
    else if isBlank then (none, splitting)
    else (if splitting.isPending then none else some [], { splitting with isPending := false })

/-- Splits glyphs into fields.  Separators in the value behind arguments in quotes are
all taken one by one. -/
def splitFields (separators : Chars) (splitting : Splitting) : List Glyph → List (List Letter)
  | [] => (splitting.current.map List.reverse).toList
  | .quotes :: rest =>
    let current := some (splitting.current.getD [])
    splitFields separators { splitting with current := current, isPending := false } rest
  | .opening isArguments :: rest =>
    splitFields separators
      { splitting with isPending := false, isSharp := splitting.isArguments,
                       isArguments := isArguments } rest
  | .gap :: rest =>
    let (field, splitting) := splitting.separated true
    field.toList ++ splitFields separators splitting rest
  | .letter found canSplit :: rest =>
    if canSplit && separators.contains found.char then
      let (field, splitting) := splitting.separated (isBlankSeparator separators found.char)
      field.toList ++ splitFields separators splitting rest
    else
      let current := some (found :: splitting.current.getD [])
      splitFields separators { splitting with current := current, isPending := false } rest

/-- The fields of a word that was expanded. -/
def fieldsOf (separators : Chars) (glyphs : List Glyph) : List (List Letter) :=
  splitFields separators {} glyphs

end BrowserBridge.Shell
