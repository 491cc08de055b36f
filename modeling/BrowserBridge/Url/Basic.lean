import BrowserBridge.Url.Host

/-!
Addresses by the rules of the web.  An address of a scheme of the web is taken apart
and written again in one form; of any other only the scheme is kept.
-/

namespace BrowserBridge

/-- An address of a scheme of the web. -/
structure WebUrl where
  scheme : String
  /-- User name and password as they are written, without the sign behind them. -/
  userInfo : String
  host : UrlHost
  /-- The port, unless it is the scheme's own. -/
  port : Option Nat
  /-- The segments of the path as they are written. -/
  path : List String
  query : Option String
  fragment : Option String
  deriving DecidableEq

/-- The port of a scheme of the web; `none` for any other scheme. -/
def Url.webPort? : String → Option Nat
  | "http" => some 80
  | "https" => some 443
  | "ws" => some 80
  | "wss" => some 443
  | "ftp" => some 21
  | _ => none

inductive Url where
  | web (url : WebUrl)
  /-- An address of a scheme outside the web. -/
  | other (scheme : String) (outside : Url.webPort? scheme = none)
  deriving DecidableEq

namespace Url

def scheme : Url → String
  | web url => url.scheme
  | other scheme _ => scheme

/-- Drops blanks and controls at both ends, and tabs and line ends everywhere. -/
def clean (text : String) : List Char :=
  let trim := fun chars : List Char => chars.dropWhile fun c => c.toNat ≤ 0x20
  let trimmed := (trim (trim text.toList).reverse).reverse
  trimmed.filter fun c => c ≠ '\t' && c ≠ '\n' && c ≠ '\r'

def takeScheme (text : List Char) : Option (String × List Char) :=
  let (front, back) := text.span fun c =>
    c.isAlphanum || c = '+' || c = '-' || c = '.'
  match back with
  | ':' :: rest =>
    if front.head?.any Char.isAlpha then some (String.ofList (front.map Char.toLower), rest)
    else none
  | _ => none

def endsAuthority (isWeb : Bool) (c : Char) : Bool :=
  c = '/' || c = '?' || c = '#' || (isWeb && c = '\\')

/-- User name and password as they are written: an empty password goes with its
colon. -/
def writeUserInfo (text : List Char) : List Char :=
  let (user, rest) := text.span (· ≠ ':')
  let password := Percent.encode Percent.inUserInfo (rest.drop 1)
  Percent.encode Percent.inUserInfo user ++ (if password.isEmpty then [] else ':' :: password)

/-- Splits user name and password off: what stands before the last at sign. -/
def takeUserInfo (isWeb : Bool) (text : List Char) :
    Except UrlFault (List Char × List Char) :=
  let (authority, rest) := text.span fun c => !endsAuthority isWeb c
  if authority.contains '@' then
    let behind := (authority.reverse.takeWhile (· ≠ '@')).reverse
    let before := authority.take (authority.length - behind.length - 1)
    if before.isEmpty && behind.isEmpty && !rest.isEmpty then .error .emptyHost
    else .ok (writeUserInfo before, behind ++ rest)
  else .ok ([], text)

/-- Splits the text of a host off: up to a colon outside of brackets, or to the end
of the authority. -/
def takeHost (isWeb : Bool) : (inBrackets : Bool) → List Char → List Char × List Char
  | _, [] => ([], [])
  | inBrackets, c :: rest =>
    if (c = ':' && !inBrackets) || endsAuthority isWeb c then ([], c :: rest)
    else
      let (host, rest) := takeHost isWeb ((inBrackets || c = '[') && c ≠ ']') rest
      (c :: host, rest)

/-- Reads a port behind its colon; without digits there is none. -/
def takePort (text : List Char) : Except UrlFault (Option Nat × List Char) :=
  let (digits, rest) := text.span Char.isDigit
  let port := (Text.digitsValue? digits).getD 0
  if 65535 < port then .error .invalidPort
  else if rest.head?.all fun c => endsAuthority true c then
    .ok (if digits.isEmpty then none else some port, rest)
  else .error .invalidPort

/-- Reads a port if a colon stands before one. -/
def takeColonPort : List Char → Except UrlFault (Option Nat × List Char)
  | ':' :: rest => takePort rest
  | rest => .ok (none, rest)

/-- Whether a segment stands for the one above, in one of its spellings. -/
def isDoubleDot (segment : List Char) : Bool :=
  ["..", "%2e%2e", "%2e.", ".%2e"].contains (String.ofList (segment.map Char.toLower))

/-- Whether a segment stands for the one it is in. -/
def isSingleDot (segment : List Char) : Bool :=
  [".", "%2e"].contains (String.ofList (segment.map Char.toLower))

/-- Whether a segment is the letter of a drive, above which nothing stands. -/
def isDrive : List Char → Bool
  | [letter, mark] => letter.isAlpha && (mark = ':' || mark = '|')
  | _ => false

/-- The segments, last one first, without the last one. -/
def dropSegment : List (List Char) → List (List Char)
  | [] => []
  | last :: rest => if isDrive last then last :: rest else rest

/-- Adds segments to those before, last one first.  Dots are resolved, and a dot
segment at the end leaves an empty one. -/
def resolve (before : List (List Char)) : List (List Char) → List (List Char)
  | [] => before
  | [last] =>
    if isDoubleDot last then [] :: dropSegment before
    else if isSingleDot last then [] :: before
    else last :: before
  | segment :: rest =>
    if isDoubleDot segment then resolve (dropSegment before) rest
    else if isSingleDot segment then resolve before rest
    else resolve (segment :: before) rest

def dropSlash : List Char → List Char
  | [] => []
  | c :: rest => if c = '/' || c = '\\' then rest else c :: rest

/-- Reads a path: its segments as they are written. -/
def takePath (text : List Char) : List String × List Char :=
  let (path, rest) := text.span fun c => c ≠ '?' && c ≠ '#'
  let segments :=
    ((dropSlash path).splitOnP fun c => c = '/' || c = '\\').map (Percent.encode Percent.inPath)
  ((resolve [] segments).reverse.map String.ofList, rest)

def takeQuery (text : List Char) : Option String × Option String :=
  let fragment := fun text : List Char => match text with
    | '#' :: rest => some (String.ofList (Percent.encode Percent.inFragment rest))
    | _ => none
  match text with
  | '?' :: rest =>
    let (query, rest) := rest.span (· ≠ '#')
    (some (String.ofList (Percent.encode Percent.inQuery query)), fragment rest)
  | _ => (none, fragment text)

/-- Reads what follows the slashes of a scheme of the web. -/
def parseWeb (scheme : String) (ownPort : Nat) (text : List Char) : Except UrlFault WebUrl := do
  let (userInfo, text) ← takeUserInfo true text
  let (hostText, text) := takeHost true false text
  if hostText.isEmpty then throw .emptyHost
  let host ← UrlHost.parse hostText
  let (port, text) ← takeColonPort text
  let (path, text) := takePath text
  let (query, fragment) := takeQuery text
  return ⟨scheme, String.ofList userInfo, host, port.filter (· ≠ ownPort), path, query, fragment⟩

/-- Checks what follows the two slashes of a scheme outside the web. -/
def checkAuthority (text : List Char) : Except UrlFault Unit := do
  let (userInfo, text) ← takeUserInfo false text
  let (hostText, text) := takeHost false false text
  let _ ← UrlHost.parseOpaque hostText
  match text with
  | ':' :: rest =>
    if hostText.isEmpty then throw .emptyHost
    let _ ← takePort rest
  | _ => if hostText.isEmpty && !userInfo.isEmpty then throw .emptyHost

/-- Checks what follows the scheme of a file: with two slashes, a host that is no
drive's letter. -/
def checkFile (text : List Char) : Except UrlFault Unit :=
  match text with
  | a :: b :: rest =>
    if (a = '/' || a = '\\') && (b = '/' || b = '\\') then
      let host := rest.takeWhile fun c => !endsAuthority true c
      if host.isEmpty || isDrive host then .ok ()
      else (UrlHost.parse host).map fun _ => ()
    else .ok ()
  | _ => .ok ()

def parse (text : String) : Except UrlFault Url :=
  match takeScheme (clean text) with
  | none => .error .noBase
  | some (scheme, rest) =>
    match outside : webPort? scheme with
    | some ownPort =>
      web <$> parseWeb scheme ownPort (rest.dropWhile fun c => c = '/' || c = '\\')
    | none =>
      if scheme = "file" then (checkFile rest).map fun () => other scheme outside
      else match rest with
        | '/' :: '/' :: rest => (checkAuthority rest).map fun () => other scheme outside
        | _ => .ok (other scheme outside)

end Url

def WebUrl.text (url : WebUrl) : String :=
  url.scheme ++ "://" ++ (if url.userInfo.isEmpty then "" else url.userInfo ++ "@") ++
    url.host.text ++
    (match url.port with
      | some port => ":" ++ toString port
      | none => "") ++
    "/" ++ "/".intercalate url.path ++
    (match url.query with
      | some query => "?" ++ query
      | none => "") ++
    (match url.fragment with
      | some fragment => "#" ++ fragment
      | none => "")

end BrowserBridge
