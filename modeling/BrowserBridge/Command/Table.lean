import BrowserBridge.Json.Shape

/-!
The table of browser commands.  A command is a name in the table.
-/

namespace BrowserBridge

def commandNames : List String :=
  ["newSession", "deleteSession", "quit", "status", "getCapabilities", "get", "goBack",
   "goForward", "refresh", "getCurrentUrl", "getTitle", "getPageSource", "addCookie",
   "getCookie", "getCookies", "deleteCookie", "deleteAllCookies", "findElement", "findElements",
   "findChildElement", "findChildElements", "getActiveElement", "clearElement", "clickElement",
   "sendKeysToElement", "sendKeysToActiveElement", "submitElement", "uploadFile",
   "getElementText", "getElementValue", "getElementTagName", "setElementSelected",
   "isElementSelected", "isElementEnabled", "isElementDisplayed", "getElementLocation",
   "getElementLocationOnceScrolledIntoView", "getElementSize", "getElementRect",
   "getElementAttribute", "getElementValueOfCssProperty", "elementEquals", "elementScreenshot",
   "close", "getCurrentWindowHandle", "getWindowHandles", "getWindowSize", "getWindowPosition",
   "setWindowSize", "setWindowPosition", "windowMaximize", "switchToWindow", "switchToFrame",
   "switchToParentFrame", "screenshot", "executeScript", "executeAsyncScript", "implicitlyWait",
   "setScriptTimeout", "setTimeouts", "dismissAlert", "acceptAlert", "setAlertValue",
   "getAlertText", "setAlertCredentials", "mouseClick", "mouseDoubleClick", "mouseButtonDown",
   "mouseButtonUp", "mouseMoveTo", "touchSingleTap", "touchDoubleTap", "touchLongPress",
   "touchDown", "touchUp", "touchMove", "touchScroll", "touchFlick", "getScreenOrientation",
   "setScreenOrientation", "getLocation", "setLocation", "getNetworkConnection",
   "setNetworkConnection", "getLog", "getAvailableLogTypes", "executeSql", "getAppCache",
   "getAppCacheStatus", "clearAppCache", "getLocalStorageItem", "removeLocalStorageItem",
   "getLocalStorageKeys", "setLocalStorageItem", "clearLocalStorage", "getLocalStorageSize",
   "getSessionStorageItem", "removeSessionStorageItem", "getSessionStorageKeys",
   "setSessionStorageItem", "clearSessionStorage", "getSessionStorageSize"]

/-- A browser command. -/
structure Command where
  name : String
  listed : name ∈ commandNames
  deriving DecidableEq

namespace Command

def ofName? (name : String) : Option Command :=
  if h : name ∈ commandNames then some ⟨name, h⟩ else none

def all : List Command := commandNames.filterMap ofName?

def newSession : Command := ⟨"newSession", by simp [commandNames]⟩

def quit : Command := ⟨"quit", by simp [commandNames]⟩

/-- Asks for the state of the hub. -/
def status : Command := ⟨"status", by simp [commandNames]⟩

def get : Command := ⟨"get", by simp [commandNames]⟩

def currentUrl : Command := ⟨"getCurrentUrl", by simp [commandNames]⟩

def title : Command := ⟨"getTitle", by simp [commandNames]⟩

def isSessionFree (command : Command) : Bool := command = newSession || command = status

/-- Reads a command off the JSON text of its name. -/
def ofJson (json : Json) : Json.Shaped Command := do
  let name ← json.asString
  match ofName? name with
  | some command => return command
  | none => throw (.unknownCommand name)

@[simp] theorem ofName?_name (command : Command) : ofName? command.name = some command := by
  simp [ofName?, command.listed]

theorem ofName?_eq_none_iff (name : String) : ofName? name = none ↔ name ∉ commandNames := by
  simp [ofName?]

end Command

end BrowserBridge
