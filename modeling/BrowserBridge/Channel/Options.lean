import BrowserBridge.Duration
import BrowserBridge.Wire.Reader

/-!
The limits of a channel.
-/

namespace BrowserBridge

structure ChannelOptions where
  /-- How long to wait for a connection. -/
  connectTimeout : Duration
  /-- How long to wait for a reply; `none` waits for ever. -/
  callTimeout : Option Duration
  /-- Most bytes of a message that arrives. -/
  messageLimit : Nat
  deriving DecidableEq

/-- Ten seconds to connect, a minute for a call and 64 MiB for a message. -/
def ChannelOptions.default : ChannelOptions :=
  ⟨.ofMillis 10000, some (.ofMillis 60000), Wire.defaultLimit⟩

end BrowserBridge
