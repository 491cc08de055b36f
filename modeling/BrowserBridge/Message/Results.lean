import BrowserBridge.Message.Failure
import BrowserBridge.Message.Response

/-!
Result records: the value a method returns stands in field 0 and its declared
failure in field 1.
-/

namespace BrowserBridge

structure NoResult where
  deriving DecidableEq

instance : Record NoResult where
  encode _ := Wire.Encode.stop
  ofFields _ := return ⟨⟩

structure ExecuteResult where
  success : Option Response
  failure : Option CommandFailure
  deriving DecidableEq

/-- The result of a command that was answered. -/
def ExecuteResult.ofResponse (response : Response) : ExecuteResult := ⟨some response, none⟩

/-- The result of a command that failed. -/
def ExecuteResult.ofFailure (message : String) : ExecuteResult := ⟨none, some ⟨some message⟩⟩

instance : Record ExecuteResult where
  encode result :=
    Record.encodeField 0 result.success ++ Record.encodeField 1 result.failure ++
    Wire.Encode.stop
  ofFields fields := return ⟨← Record.ofField? fields 0, ← Record.ofField? fields 1⟩

structure LayoutResult where
  success : Option Int32
  failure : Option SpecMissing
  deriving DecidableEq

instance : Record LayoutResult where
  encode result :=
    Wire.Encode.int32Field 0 result.success ++ Record.encodeField 1 result.failure ++
    Wire.Encode.stop
  ofFields fields := return ⟨fields.i32? 0, ← Record.ofField? fields 1⟩

structure CountResult where
  success : Option Int32
  deriving DecidableEq

instance : Record CountResult where
  encode result := Wire.Encode.int32Field 0 result.success ++ Wire.Encode.stop
  ofFields fields := return ⟨fields.i32? 0⟩

end BrowserBridge
