import BrowserBridge.Channel.Basic
import BrowserBridge.Json.Parser
import BrowserBridge.Proofs.Channel.Attempts
import BrowserBridge.Proofs.Channel.Delay
import BrowserBridge.Proofs.Channel.Numbering
import BrowserBridge.Proofs.Channel.Undelivered
import BrowserBridge.Proofs.Command.Adapted
import BrowserBridge.Proofs.Message.Arms
import BrowserBridge.Proofs.Message.FirstSeen
import BrowserBridge.Proofs.Message.Undeclared
import BrowserBridge.Proofs.Session.Binding
import BrowserBridge.Proofs.Session.Life
import BrowserBridge.Proofs.Session.Objections
import BrowserBridge.Proofs.Session.Sharing
import BrowserBridge.Proofs.Shell.Pipe
import BrowserBridge.Proofs.Shell.Quoting
import BrowserBridge.Proofs.Sidecar.Halted
import BrowserBridge.Proofs.Sidecar.Launched
import BrowserBridge.Proofs.Sidecar.Listed
import BrowserBridge.Proofs.Sidecar.Stopped
import BrowserBridge.Proofs.Sidecar.Stored
import BrowserBridge.Proofs.Sidecar.Terminator
import BrowserBridge.Proofs.Sidecar.Waiting
import BrowserBridge.Proofs.Text.Ascii
import BrowserBridge.Proofs.Tool.Sequence
import BrowserBridge.Proofs.Wire.Budget
import BrowserBridge.Proofs.Wire.Forms
import BrowserBridge.Proofs.Wire.Truncation
import BrowserBridge.Proofs.Wire.Weight
import BrowserBridge.Service.Scripted
import BrowserBridge.Session.Driver
import BrowserBridge.Session.Pool
import BrowserBridge.Session.Setup
import BrowserBridge.Sidecar.Program
import BrowserBridge.Sidecar.Table
