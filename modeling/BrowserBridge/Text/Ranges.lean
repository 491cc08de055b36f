/-!
Properties of characters that are given by the code points at which they change.
-/

namespace BrowserBridge.Text

/-- Whether a character has a property that begins at the first bound, ends at the
second, begins again at the third, and so on: an odd number of bounds lies at or below
it. -/
def isWithin (bounds : List Nat) (c : Char) : Bool :=
  (bounds.takeWhile (· ≤ c.toNat)).length % 2 = 1

end BrowserBridge.Text
