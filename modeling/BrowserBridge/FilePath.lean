/-!
Paths of files.
-/

namespace BrowserBridge.FilePath

/-- A path below another one.  An absolute path stands alone, and nothing is
simplified. -/
def join (left right : String) : String :=
  if right.toList.head? = some '/' then right
  else if left.toList.getLast?.all (· = '/') then left ++ right
  else left ++ "/" ++ right

end BrowserBridge.FilePath
