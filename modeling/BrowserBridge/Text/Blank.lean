/-!
Blank characters: those with the Unicode property White_Space.
-/

namespace BrowserBridge.Text

/-- Whether a character has the property White_Space. -/
def isBlankChar (c : Char) : Bool :=
  let n := c.toNat
  (9 ≤ n && n ≤ 13) || n = 0x20 || n = 0x85 || n = 0xA0 || n = 0x1680 ||
    (0x2000 ≤ n && n ≤ 0x200A) || n = 0x2028 || n = 0x2029 || n = 0x202F || n = 0x205F ||
    n = 0x3000

/-- Whether a text has no other than blank characters. -/
def isBlank (text : String) : Bool := text.toList.all isBlankChar

/-- The columns of a line: its longest pieces without blank characters. -/
def columns (line : List Char) : List String :=
  ((line.splitOnP isBlankChar).filter fun piece => !piece.isEmpty).map String.ofList

end BrowserBridge.Text
