import BrowserBridge.Text.Punycode

/-!
Names of domains that hold other characters than ASCII ones in an ASCII spelling.  Such a
label must spell a text, and none of its characters may be a control.  The tables of
Unicode by which further labels are refused are left out: characters that stand for
others, marks in front, spellings that are not composed, joiners without a place, and
directions of writing that mix.
-/

namespace BrowserBridge.Domain

/-- What a label begins with that spells other characters in ASCII. -/
def spellingMark : List Char := ['x', 'n', '-', '-']

/-- The longest text that is read as such a label, without its beginning. -/
def maxSpelling : Nat := 2000

/-- The longest label after it was read. -/
def maxLabel : Nat := 1000

def isControl (c : Char) : Bool := c.toNat < 0x20 || (0x7F ≤ c.toNat && c.toNat < 0xA0)

/-- Whether what is behind the mark of a label spells a text. -/
def isSpelling (label : List Char) : Bool :=
  !label.isEmpty && label.getLast? ≠ some '-' && label.length ≤ maxSpelling &&
    match Text.Punycode.decode label with
    | some text => text.length ≤ maxLabel && !text.any isControl
    | none => false

/-- Whether a name in lower case is one of a domain. -/
def isName (name : List Char) : Bool :=
  (name.splitOn '.').all fun label => !spellingMark.isPrefixOf label || isSpelling (label.drop 4)

end BrowserBridge.Domain
