import BrowserBridge.Json.Parser
import BrowserBridge.Text.Quoted
import BrowserBridge.Url.Domain
import BrowserBridge.Url.Fault
import BrowserBridge.Url.Percent

/-!
Hosts of addresses: IPv4 and IPv6 addresses and names.  A name is ASCII; its letters
become lower case, and percent-encoded bytes are decoded before it is looked at.
-/

namespace BrowserBridge

inductive UrlHost where
  | name (text : String)
  | ipv4 (address : Nat)
  | ipv6 (pieces : List Nat)
  deriving DecidableEq

namespace UrlHost

/-- The value of digits in a base, or `none` if one of them is no digit of it. -/
def valueIn? (base : Nat) (digits : List Char) : Option Nat :=
  digits.foldlM
    (fun n c => ((Json.hexDigit? c).filter (· < base)).map (n * base + ·)) 0

/-- The number that a part of an IPv4 address spells: in hexadecimal digits behind
`0x`, in octal ones behind `0`, else in decimal ones. -/
def ipv4Number? (part : List Char) : Option Nat :=
  match part with
  | [] => none
  | '0' :: 'x' :: digits => valueIn? 16 digits
  | '0' :: 'X' :: digits => valueIn? 16 digits
  | ['0'] => some 0
  | '0' :: digits => valueIn? 8 digits
  | digits => valueIn? 10 digits

/-- Whether a name counts as an IPv4 address: its last part, or the one before a
final dot, is a number. -/
def endsInNumber (name : List Char) : Bool :=
  let last := match (name.splitOn '.').reverse with
    | [] :: previous :: _ => previous
    | last :: _ => last
    | [] => []
  (!last.isEmpty && last.all Char.isDigit) || (ipv4Number? last).isSome

/-- Reads an IPv4 address.  The last number fills the bytes that the others
leave. -/
def parseIPv4 (name : List Char) : Except UrlFault Nat :=
  let parts := name.splitOn '.'
  let parts := if parts.getLast? = some [] then parts.dropLast else parts
  match parts.mapM ipv4Number? with
  | some numbers =>
    match numbers.reverse with
    | last :: others =>
      if parts.length ≤ 4 && others.all (· < 256) && last < Nat.pow 256 (5 - parts.length) then
        let high := others.reverse.foldl (fun n part => n * 256 + part) 0
        .ok (high * Nat.pow 256 (5 - parts.length) + last)
      else .error .invalidIPv4
    | [] => .error .invalidIPv4
  | none => .error .invalidIPv4

/-- Reads four decimal bytes with dots between them and no leading zeros, as two
pieces of an IPv6 address. -/
def parseDotted (text : List Char) : Option (List Nat) := do
  let bytes ← (text.splitOn '.').mapM fun part =>
    if part.isEmpty || (part.head? = some '0' && part.length ≠ 1) then none
    else (valueIn? 10 part).filter (· < 256)
  match bytes with
  | [a, b, c, d] => return [a * 256 + b, c * 256 + d]
  | _ => none

/-- Reads a piece of one to four hexadecimal digits. -/
def piece? (part : List Char) : Option Nat :=
  if part.isEmpty || 4 < part.length then none else valueIn? 16 part

/-- Reads pieces with colons between them; the last two may be a dotted IPv4
address. -/
def parsePieces (text : List Char) : Option (List Nat) :=
  let parts := text.splitOn ':'
  match parts.reverse with
  | last :: others =>
    if last.contains '.' then do
      return (← others.reverse.mapM piece?) ++ (← parseDotted last)
    else parts.mapM piece?
  | [] => none

/-- Splits at the first double colon. -/
def splitAtGap : List Char → Option (List Char × List Char)
  | ':' :: ':' :: rest => some ([], rest)
  | c :: rest => (splitAtGap rest).map fun (front, back) => (c :: front, back)
  | [] => none

/-- Reads the pieces on one side of a double colon, of which there may be none. -/
def parseSide (text : List Char) : Option (List Nat) :=
  if text.isEmpty then some [] else parsePieces text

/-- Reads an IPv6 address.  A double colon stands for one or more zero pieces. -/
def parseIPv6 (text : List Char) : Except UrlFault (List Nat) :=
  match splitAtGap text with
  | some (front, back) =>
    match parseSide front, parseSide back with
    | some high, some low =>
      if !front.contains '.' && high.length + low.length < 8 then
        .ok (high ++ List.replicate (8 - high.length - low.length) 0 ++ low)
      else .error .invalidIPv6
    | _, _ => .error .invalidIPv6
  | none =>
    match parsePieces text with
    | some pieces => if pieces.length = 8 then .ok pieces else .error .invalidIPv6
    | none => .error .invalidIPv6

/-- Whether a name cannot hold a character. -/
def isForbidden (c : Char) : Bool :=
  c.toNat ≤ 0x20 || 0x7F ≤ c.toNat ||
    ['#', '%', '/', ':', '<', '>', '?', '@', '[', '\\', ']', '^', '|'].contains c

/-- Whether the host of a scheme outside the web cannot hold a character. -/
def isForbiddenOpaque (c : Char) : Bool :=
  ['\x00', '\t', '\n', '\r', ' ', '#', '/', ':', '<', '>', '?', '@', '[', '\\', ']', '^',
   '|'].contains c

def parseBracketed (text : List Char) : Except UrlFault UrlHost :=
  if text.getLast? = some ']' then ipv6 <$> parseIPv6 text.dropLast
  else .error .invalidIPv6

/-- Reads the host of a scheme of the web. -/
def parse (text : List Char) : Except UrlFault UrlHost :=
  match text with
  | '[' :: rest => parseBracketed rest
  | _ =>
    match Text.decode (Percent.decode (Text.encode (String.ofList text))) with
    | .error _ => .error .invalidDomain
    | .ok decoded =>
      let domain := decoded.toList.map Char.toLower
      if domain.any isForbidden || !Domain.isName domain then .error .invalidDomain
      else if domain.isEmpty then .error .emptyHost
      else if endsInNumber domain then ipv4 <$> parseIPv4 domain
      else .ok (name (String.ofList domain))

/-- Checks the host of a scheme outside the web. -/
def parseOpaque (text : List Char) : Except UrlFault UrlHost :=
  match text with
  | '[' :: rest => parseBracketed rest
  | _ =>
    if text.any isForbiddenOpaque then .error .invalidDomainCharacter
    else .ok (name (String.ofList text))

/-- Where the first of the longest runs of at least two zeros begins, and its
length. -/
def longestGap (pieces : List Nat) : Option (Nat × Nat) :=
  let runAt (start : Nat) := ((pieces.drop start).takeWhile (· == 0)).length
  let runs := (List.range pieces.length).map fun start => (start, runAt start)
  runs.foldl
    (fun best run =>
      if run.2 < 2 then best
      else match best with
        | some longest => if longest.2 < run.2 then some run else best
        | none => some run)
    none

def text : UrlHost → String
  | name text => text
  | ipv4 address =>
    ".".intercalate ([3, 2, 1, 0].map fun i => toString (address / Nat.pow 256 i % 256))
  | ipv6 pieces =>
    let join (pieces : List Nat) := ":".intercalate (pieces.map Text.hex)
    match longestGap pieces with
    | some (start, length) =>
      "[" ++ join (pieces.take start) ++ "::" ++ join (pieces.drop (start + length)) ++ "]"
    | none => "[" ++ join pieces ++ "]"

end UrlHost

end BrowserBridge
