import BrowserBridge.Wire.Tag

/-!
The ways in which bytes fail to be a message.
-/

namespace BrowserBridge.Wire

/-- A violation of the wire format. -/
inductive Malformed where
  /-- The version half of a strict header's first word. -/
  | badVersion (version : Nat)
  | unknownKind (code : UInt8)
  | unknownTag (code : UInt8)
  /-- The name in a header without a version. -/
  | invalidName (fault : Text.Utf8Fault)
  /-- The name in a header with a version. -/
  | invalidText (fault : Text.Utf8Fault)
  | invalidField (fault : Text.Utf8Fault)
  /-- A container of texts holds something else. -/
  | notText
  | unexpectedStop
  | tooDeep
  | negativeLength (length : Int32)
  | lengthOverLimit (length limit : Nat)
  | overLimit (limit : Nat)
  /-- Found by someone else and only passed on. -/
  | reported (text : String)
  deriving DecidableEq

/-- Values may be nested this deep inside the outermost struct. -/
def maxDepth : Nat := 64

/-- Eight hexadecimal digits. -/
private def hexWord (n : Nat) : String :=
  String.ofList ((List.range 8).reverse.map fun i => Nat.digitChar (n / Nat.pow 16 i % 16))

def Malformed.message : Malformed → String
  | badVersion version => "Bad protocol version 0x" ++ hexWord version
  | unknownKind code => s!"Unknown message type {code.toNat}"
  | unknownTag code => s!"Unknown field type {code.toNat}"
  | invalidName fault => "Invalid UTF-8 in message name: " ++ fault.message
  | invalidText fault => "Invalid UTF-8: " ++ fault.message
  | invalidField fault => "Invalid UTF-8 in string field: " ++ fault.message
  | notText => "Expected string container element"
  | unexpectedStop => "Unexpected STOP type"
  | tooDeep => s!"Nesting deeper than {maxDepth} levels"
  | negativeLength length => s!"Negative length {length.toInt}"
  | lengthOverLimit length limit => s!"Length {length} exceeds limit of {limit} bytes"
  | overLimit limit => s!"Message exceeds limit of {limit} bytes"
  | reported text => text

end BrowserBridge.Wire
