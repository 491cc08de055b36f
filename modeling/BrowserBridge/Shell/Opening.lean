import BrowserBridge.Shell.Machine

/-!
Opening files for redirections.
-/

namespace BrowserBridge.Shell

open Run

/-- Opens a file for a redirection; complains if that is not possible. -/
def openFile (path : Chars) (isRead : Bool) (start : Bool → Opened → Run Stream) :
    Run (Option Stream) := do
  let refuse (what message : String) : Run (Option Stream) := do
    complain ("cannot ".toList ++ what.toList ++ ' ' :: path ++ (": " ++ message).toList)
    return none
  let verb := if isRead then "open" else "create"
  let message (fault : PathFault) : String :=
    match fault with
    | .missing | .notFolder => if isRead then "No such file" else "Directory nonexistent"
    | _ => fault.message
  match ← resolve path with
  | .error fault => refuse verb (message fault)
  | .ok (whole, node) =>
    match node with
    | some .nothing => return some .nothing
    | some (.descriptor number) =>
      match (← shell).descriptors.lookup number with
      | some stream => return some stream
      | none => refuse verb (message .missing)
    | some .folder =>
      if isRead then return some .nothing else refuse verb PathFault.folder.message
    | some (.program _) => return some .nothing
    | some (.file number) => some <$> start true ⟨number, 0, false, true, true, false⟩
    | none =>
      if isRead then refuse verb "No such file"
      else
        match (← world).node? (pathOf (components whole).dropLast) with
        | some .folder =>
          let (number, world) := (← world).create whole
          modifyWorld fun _ => world
          some <$> start false ⟨number, 0, false, true, true, false⟩
        | _ => refuse verb "Directory nonexistent"

def newStream (opened : Opened) : Run Stream := do
  let (number, world) := (← world).newOpened opened
  modifyWorld fun _ => world
  return .opened number

end BrowserBridge.Shell
