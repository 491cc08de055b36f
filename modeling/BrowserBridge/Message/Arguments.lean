import BrowserBridge.Message.Record

/-!
The methods of the service and their argument records.
-/

namespace BrowserBridge

inductive Method where
  /-- Points the service at the browser hub. -/
  | attach
  /-- Runs one command. -/
  | execute
  /-- Checks the current page against layout specs. -/
  | checkLayout
  /-- Writes the report. -/
  | generateReport
  /-- Counts the sessions that the service holds. -/
  | activeDrivers
  /-- Ends the service. -/
  | shutService
  deriving DecidableEq, Repr

def Method.all : List Method :=
  [.attach, .execute, .checkLayout, .generateReport, .activeDrivers, .shutService]

def Method.name : Method → String
  | attach => "initialize"
  | execute => "execute"
  | checkLayout => "check_layout"
  | generateReport => "generate_report"
  | activeDrivers => "active_drivers"
  | shutService => "shut_service"

structure NoArguments where
  deriving DecidableEq

instance : Record NoArguments where
  encode _ := Wire.Encode.stop
  ofFields _ := return ⟨⟩

structure InitializeArguments where
  /-- Where the browser hub is. -/
  hub : Option String
  deriving DecidableEq

instance : Record InitializeArguments where
  encode arguments := Wire.Encode.textField 1 arguments.hub ++ Wire.Encode.stop
  ofFields fields := return ⟨← fields.text? 1⟩

structure ExecuteArguments where
  /-- The bound session, if the command belongs to one. -/
  sessionId : Option String
  command : Option String
  /-- The parameters as JSON text. -/
  params : Option String
  deriving DecidableEq

instance : Record ExecuteArguments where
  encode arguments :=
    Wire.Encode.textField 1 arguments.sessionId ++
    Wire.Encode.textField 2 arguments.command ++
    Wire.Encode.textField 3 arguments.params ++
    Wire.Encode.stop
  ofFields fields := return ⟨← fields.text? 1, ← fields.text? 2, ← fields.text? 3⟩

structure LayoutArguments where
  /-- The test that the check belongs to. -/
  test : Option String
  /-- The session whose page is checked. -/
  sessionId : Option String
  specs : Option String
  included : List String
  excluded : List String
  deriving DecidableEq

instance : Record LayoutArguments where
  encode arguments :=
    Wire.Encode.textField 1 arguments.test ++
    Wire.Encode.textField 2 arguments.sessionId ++
    Wire.Encode.textField 3 arguments.specs ++
    Wire.Encode.textListField 4 arguments.included ++
    Wire.Encode.textListField 5 arguments.excluded ++
    Wire.Encode.stop
  ofFields fields :=
    return ⟨← fields.text? 1, ← fields.text? 2, ← fields.text? 3,
      (← fields.textList? 4).getD [], (← fields.textList? 5).getD []⟩

structure ReportArguments where
  /-- The folder that the report is written to. -/
  folder : Option String
  deriving DecidableEq

instance : Record ReportArguments where
  encode arguments := Wire.Encode.textField 1 arguments.folder ++ Wire.Encode.stop
  ofFields fields := return ⟨← fields.text? 1⟩

end BrowserBridge
