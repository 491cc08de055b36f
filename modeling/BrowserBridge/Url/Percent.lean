import BrowserBridge.Text.Utf8

/-!
Percent encoding: which characters each part of an address cannot hold as they are,
and reading encoded bytes.
-/

namespace BrowserBridge.Percent

/-- The characters encoded in every part: controls and all but ASCII. -/
def inAll (c : Char) : Bool := c.toNat < 0x20 || 0x7F ≤ c.toNat

def inFragment (c : Char) : Bool := inAll c || [' ', '"', '<', '>', '\x60'].contains c

def inPath (c : Char) : Bool := inFragment c || ['#', '?', '\x7b', '\x7d'].contains c

/-- The characters encoded in a user name or a password. -/
def inUserInfo (c : Char) : Bool :=
  inPath c || ['/', ':', ';', '=', '@', '[', '\\', ']', '^', '|'].contains c

/-- The characters encoded in a query; the schemes of the web have the single quote
as well. -/
def inQuery (c : Char) : Bool := inAll c || [' ', '"', '#', '<', '>', '\''].contains c

/-- A hexadecimal digit in upper case. -/
def hexDigit (n : Nat) : Char := (Nat.digitChar n).toUpper

def ofByte (b : UInt8) : List Char := ['%', hexDigit (b.toNat / 16), hexDigit (b.toNat % 16)]

def encode (isEncoded : Char → Bool) (text : List Char) : List Char :=
  text.flatMap fun c => if isEncoded c then (Text.encode c.toString).flatMap ofByte else [c]

/-- The value of a hexadecimal digit as a byte. -/
def nibble? (b : UInt8) : Option Nat :=
  let n := b.toNat
  if 48 ≤ n && n ≤ 57 then some (n - 48)
  else if 65 ≤ n && n ≤ 70 then some (n - 55)
  else if 97 ≤ n && n ≤ 102 then some (n - 87)
  else none

/-- Bytes with the encoded ones decoded; a percent sign without two hexadecimal
digits stays. -/
def decode : Bytes → Bytes
  | [] => []
  | b :: rest =>
    if b = 0x25 then
      match rest with
      | high :: low :: others =>
        match nibble? high, nibble? low with
        | some h, some l => UInt8.ofNat (h * 16 + l) :: decode others
        | _, _ => b :: decode (high :: low :: others)
      | few => b :: few
    else b :: decode rest

end BrowserBridge.Percent
