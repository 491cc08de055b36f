import BrowserBridge.Message.Record

/-!
Failures that the service sends: two declared ones, each of one method, and the
one of the call layer itself, which carries a kind.
-/

namespace BrowserBridge

/-- The declared failure of running a command. -/
structure CommandFailure where
  message : Option String
  deriving DecidableEq

instance : Record CommandFailure where
  encode failure := Wire.Encode.textField 1 failure.message ++ Wire.Encode.stop
  ofFields fields := return ⟨← fields.text? 1⟩

/-- The declared failure of a layout check. -/
structure SpecMissing where
  message : Option String
  deriving DecidableEq

instance : Record SpecMissing where
  encode failure := Wire.Encode.textField 1 failure.message ++ Wire.Encode.stop
  ofFields fields := return ⟨← fields.text? 1⟩

/-- What went wrong in the call layer. -/
inductive CallFailureKind where
  | unknown
  | unknownMethod
  | invalidMessageType
  | wrongMethodName
  | badSequenceId
  | missingResult
  | internalError
  | protocolError
  | invalidTransform
  | invalidProtocol
  | unsupportedClientType
  deriving DecidableEq, Repr

namespace CallFailureKind

def code : CallFailureKind → Int32
  | unknown => 0
  | unknownMethod => 1
  | invalidMessageType => 2
  | wrongMethodName => 3
  | badSequenceId => 4
  | missingResult => 5
  | internalError => 6
  | protocolError => 7
  | invalidTransform => 8
  | invalidProtocol => 9
  | unsupportedClientType => 10

/-- The kind of a code; codes that no kind has are unknown. -/
def ofCode (code : Int32) : CallFailureKind :=
  match code.toInt with
  | 1 => unknownMethod
  | 2 => invalidMessageType
  | 3 => wrongMethodName
  | 4 => badSequenceId
  | 5 => missingResult
  | 6 => internalError
  | 7 => protocolError
  | 8 => invalidTransform
  | 9 => invalidProtocol
  | 10 => unsupportedClientType
  | _ => unknown

@[simp] theorem ofCode_code (kind : CallFailureKind) : ofCode kind.code = kind := by
  cases kind <;> rfl

def name : CallFailureKind → String
  | unknown => "UNKNOWN"
  | unknownMethod => "UNKNOWN_METHOD"
  | invalidMessageType => "INVALID_MESSAGE_TYPE"
  | wrongMethodName => "WRONG_METHOD_NAME"
  | badSequenceId => "BAD_SEQUENCE_ID"
  | missingResult => "MISSING_RESULT"
  | internalError => "INTERNAL_ERROR"
  | protocolError => "PROTOCOL_ERROR"
  | invalidTransform => "INVALID_TRANSFORM"
  | invalidProtocol => "INVALID_PROTOCOL"
  | unsupportedClientType => "UNSUPPORTED_CLIENT_TYPE"

end CallFailureKind

/-- A failure of the call layer, sent in the place of a reply. -/
structure CallFailure where
  message : Option String
  kind : CallFailureKind
  deriving DecidableEq

instance : Record CallFailure where
  encode failure :=
    Wire.Encode.textField 1 failure.message ++
    Wire.Encode.int32Field 2 (some failure.kind.code) ++
    Wire.Encode.stop
  ofFields fields :=
    return ⟨← fields.text? 1, .ofCode ((fields.i32? 2).getD 0)⟩

end BrowserBridge
