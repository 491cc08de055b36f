import BrowserBridge.Proofs.Wire.Header

/-!
Properties that pass from the parts of a read to the whole.  A message is read in pieces
of fixed size, in checked lengths and in the bytes behind them; a property that holds of
these and passes through sequencing holds of structs and of headers.
-/

namespace BrowserBridge.Wire

/-- A property of reads that passes from the parts to the whole. -/
structure Compositional (holds : ∀ {α : Type}, Read α → Prop) : Prop where
  pure {α : Type} (a : α) : holds (pure a : Read α)
  /-- Refusals for the limit have parts of their own. -/
  refuse {α : Type} {cause : Malformed} (hcause : ∀ limit, cause ≠ .overLimit limit) :
    holds (refuse cause : Read α)
  bind {α β : Type} {first : Read α} {next : α → Read β} (hfirst : holds first)
    (hnext : ∀ a, holds (next a)) : holds (first >>= next)
  fixed (n : Nat) : holds (fixed n)
  checkLength (length : Int32) : holds (checkLength length)
  /-- Bytes are drawn at once only behind a length that was checked. -/
  drawLong (length : Int32) : holds (Wire.checkLength length >>= Wire.drawLong)

namespace Compositional

variable {holds : ∀ {α : Type}, Read α → Prop} (parts : Compositional holds)

include parts

theorem map {α β : Type} {act : Read α} (f : α → β) (h : holds act) : holds (f <$> act) :=
  parts.bind h fun a => parts.pure (f a)

theorem number (width : Nat) : holds (number width) := parts.map valueOf (parts.fixed width)

theorem byte : holds byte := parts.map _ (parts.number 1)

theorem int16 : holds int16 := parts.map _ (parts.number 2)

theorem int32 : holds int32 := parts.map _ (parts.number 4)

theorem word64 : holds word64 := parts.map _ (parts.number 8)

theorem binary : holds binary := parts.bind parts.int32 parts.drawLong

theorem tag : holds tag := by
  refine parts.bind parts.byte fun code => ?_
  cases Tag.ofCode? code with
  | none => exact parts.refuse (by simp)
  | some found => exact parts.pure found

theorem kindOf (code : UInt8) : holds (kindOf code) := by
  unfold Wire.kindOf
  cases Kind.ofCode? code with
  | none => exact parts.refuse (by simp)
  | some kind => exact parts.pure kind

theorem textOf (bytes : Bytes) {wrong : Text.Utf8Fault → Malformed}
    (hwrong : ∀ fault limit, wrong fault ≠ .overLimit limit) : holds (textOf bytes wrong) := by
  unfold Wire.textOf
  cases Text.decode bytes with
  | ok text => exact parts.pure text
  | error fault => exact parts.refuse (hwrong fault)

theorem times {α : Type} {read : Read α} (hread : holds read) (n : Nat) :
    holds (times n read) := by
  induction n with
  | zero => exact parts.pure []
  | succ n ih =>
      exact parts.bind hread fun head => parts.bind ih fun tail => parts.pure (head :: tail)

theorem pair {α β : Type} {first : Read α} {second : Read β} (hfirst : holds first)
    (hsecond : holds second) : holds (Prod.mk <$> first <*> second) := by
  change holds ((Prod.mk <$> first) >>= fun pair => pair <$> second)
  exact parts.bind (parts.map Prod.mk hfirst) fun pair => parts.map pair hsecond

/-- A list behind its length. -/
theorem counted {α : Type} {many : Nat → Read (List α)} (wrap : List α → Tree)
    (hmany : ∀ n, holds (many n)) :
    holds (do
      let n ← Wire.checkLength (← Wire.int32)
      wrap <$> many n) :=
  parts.bind parts.int32 fun length =>
    parts.bind (parts.checkLength length) fun n => parts.map wrap (hmany n)

section

-- The bound on the number of fields is no part of the format, so each property treats it
-- in its own way.
variable (hfields : ∀ read : Tag → Read Tree, (∀ tag, holds (read tag)) →
  holds (do fields read ((← get).limit + 1)))

include hfields

/-- Values of every tag at every depth. -/
theorem value (levels : Nat) (tag : Tag) : holds (value levels tag) := by
  induction levels generalizing tag with
  | zero => exact parts.refuse (by simp)
  | succ levels ih =>
      cases tag with
      | stop => exact parts.refuse (by simp)
      | bool => exact parts.map _ parts.byte
      | byte => exact parts.map _ parts.byte
      | double => exact parts.map _ parts.word64
      | i16 => exact parts.map _ parts.int16
      | i32 => exact parts.map _ parts.int32
      | i64 => exact parts.map _ parts.word64
      | binary => exact parts.map _ parts.binary
      | struct => exact parts.map _ (hfields _ ih)
      | map =>
          exact parts.bind parts.tag fun keyTag => parts.bind parts.tag fun valueTag =>
            parts.counted _ fun n => parts.times (parts.pair (ih keyTag) (ih valueTag)) n
      | set =>
          exact parts.bind parts.tag fun elementTag =>
            parts.counted _ fun n => parts.times (ih elementTag) n
      | list =>
          exact parts.bind parts.tag fun elementTag =>
            parts.counted _ fun n => parts.times (ih elementTag) n

theorem struct : holds struct := hfields _ (parts.value hfields maxDepth)

end

theorem strictRest (code : UInt8) : holds (strictRest code) :=
  parts.bind (parts.kindOf code) fun kind => parts.bind parts.binary fun content =>
    parts.bind (parts.textOf content (by simp)) fun name =>
      parts.bind parts.int32 fun sequence => parts.pure (Header.mk name kind sequence)

theorem looseRest (length : Int32) : holds (looseRest length) := by
  have hname : holds (Wire.checkLength length >>= Wire.drawLong >>= fun content =>
      Wire.textOf content .invalidName) :=
    parts.bind (parts.drawLong length) fun content => parts.textOf content (by simp)
  have hrest (name : String) : holds (do
      let kind ← Wire.kindOf (← Wire.byte)
      return Header.mk name kind (← Wire.int32)) :=
    parts.bind parts.byte fun code => parts.bind (parts.kindOf code) fun kind =>
      parts.bind parts.int32 fun sequence => parts.pure (Header.mk name kind sequence)
  have hwhole := parts.bind hname hrest
  rwa [bind_assoc, bind_assoc] at hwhole

/-- Headers, apart from the count that starts anew with them. -/
theorem header : holds (Wire.int32 >>= headerRest) := by
  refine parts.bind parts.int32 fun first => ?_
  unfold headerRest
  split
  · split
    · exact parts.strictRest _
    · exact parts.refuse (by simp)
  · exact parts.looseRest first

end Compositional

end BrowserBridge.Wire
