import BrowserBridge.Json.Printer

/-!
JSON values as they stand in descriptions: with the name of their kind.
-/

namespace BrowserBridge.Json

mutual

/-- A value with the name of its kind. -/
def inspect : Json → String
  | null => "Null"
  | bool true => "Bool(true)"
  | bool false => "Bool(false)"
  | integer n => "Number(" ++ integerText n ++ ")"
  | float bits => "Number(" ++ floatText bits ++ ")"
  | string text => "String(" ++ Text.quoted text ++ ")"
  | array elements => "Array [" ++ ", ".intercalate (inspectElements elements) ++ "]"
  | object members => "Object \x7b" ++ ", ".intercalate (inspectMembers members) ++ "\x7d"

/-- Elements with the names of their kinds. -/
def inspectElements : List Json → List String
  | [] => []
  | element :: rest => inspect element :: inspectElements rest

/-- Members with the names of their kinds. -/
def inspectMembers : List (String × Json) → List String
  | [] => []
  | (key, value) :: rest => (Text.quoted key ++ ": " ++ inspect value) :: inspectMembers rest

end

end BrowserBridge.Json
