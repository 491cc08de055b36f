import BrowserBridge.Fault
import BrowserBridge.Message.Arguments
import BrowserBridge.Message.Results

/-!
What results come to: the value that a method returns, or the fault that its
declared failure stands for.
-/

namespace BrowserBridge

def CommandFailure.toFault (failure : CommandFailure) : Fault :=
  .command (failure.message.getD "")

def SpecMissing.toFault (failure : SpecMissing) : Fault :=
  .specMissing (failure.message.getD "")

/-- The fault that a failure of the call layer stands for in a call of `method`. -/
def CallFailure.toFault (failure : CallFailure) (method : String) : Fault :=
  .application method failure.kind (failure.message.getD "")

/-- The fault of a result with neither a value nor a declared failure. -/
def missingResult (method : String) : Fault :=
  .application method .missingResult (method ++ " failed: unknown result")

/-- Records that resolve to the value a method returns. -/
class Reply (ρ : Type) extends Record ρ where
  /-- The type of the value. -/
  Output : Type
  /-- The value, or the fault in its place. -/
  output : ρ → (method : String) → Except Fault Output

instance : Reply NoResult where
  Output := Unit
  output _ _ := .ok ()

instance : Reply ExecuteResult where
  Output := Response
  output
    | ⟨some response, _⟩, _ => .ok response
    | ⟨none, some failure⟩, _ => .error failure.toFault
    | ⟨none, none⟩, method => .error (missingResult method)

instance : Reply LayoutResult where
  Output := Int32
  output
    | ⟨some count, _⟩, _ => .ok count
    | ⟨none, some failure⟩, _ => .error failure.toFault
    | ⟨none, none⟩, method => .error (missingResult method)

instance : Reply CountResult where
  Output := Int32
  output
    | ⟨some count⟩, _ => .ok count
    | ⟨none⟩, method => .error (missingResult method)

/-- The fault that a failed read stands for; `limit` is how long a stalled read of
`method`'s answer is waited for. -/
def Wire.ReadFault.toFault (fault : Wire.ReadFault) (method : String) (limit : Nat) : Fault :=
  match fault with
  | malformed cause => .malformed cause
  | io fault => .io fault
  | stalled => .callTimeout method limit

end BrowserBridge
