import BrowserBridge.Service.Basic

/-!
A service that answers from a list and writes down what it is asked.  With the
list used up every call succeeds and has nothing to say.
-/

namespace BrowserBridge

/-- What a scripted service answers. -/
inductive ScriptedAnswer where
  | response (response : Response)
  | count (n : Int32)
  | done
  | fault (fault : Fault)

/-- A service that answers from a list. -/
structure ScriptedService where
  /-- The answers to come. -/
  answers : List ScriptedAnswer
  /-- The calls so far, the last one first. -/
  calls : List Call

namespace ScriptedService

/-- The answer's value for a call; an answer of another type says nothing. -/
def ScriptedAnswer.valueFor (answer : ScriptedAnswer) : (call : Call) → call.Answer
  | .execute .. => match answer with
    | .response response => response
    | _ => Response.empty
  | .checkLayout .. => match answer with
    | .count n => n
    | _ => (0 : Int32)
  | .activeDrivers => match answer with
    | .count n => n
    | _ => (0 : Int32)
  | .attach _ => ()
  | .generateReport _ => ()
  | .shutService => ()
  | .close => ()

instance : Service ScriptedService where
  perform call := fun service =>
    let calls := call :: service.calls
    match service.answers with
    | [] => .ok (ScriptedAnswer.valueFor .done call) ⟨[], calls⟩
    | .fault fault :: rest => .error fault ⟨rest, calls⟩
    | answer :: rest => .ok (ScriptedAnswer.valueFor answer call) ⟨rest, calls⟩

end ScriptedService

end BrowserBridge
