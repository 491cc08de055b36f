/-!
Text as bytes.  `decode` accepts exactly the UTF-8 encodings; what it refuses
it locates by the longest well-formed start and the length of the ill-formed
sequence after it.  `decodeLossy` puts U+FFFD in the place of each such
sequence.
-/

namespace BrowserBridge

abbrev Bytes := List UInt8

namespace Text

def encode (text : String) : Bytes := text.toUTF8.data.toList

/-- Where a byte string stops being UTF-8. -/
structure Utf8Fault where
  /-- Length of the longest well-formed start. -/
  validUpTo : Nat
  /-- Length of the ill-formed sequence, or `none` if the bytes end inside it. -/
  length : Option Nat
  deriving DecidableEq, Repr

def Utf8Fault.message (fault : Utf8Fault) : String :=
  match fault.length with
  | some n => s!"invalid utf-8 sequence of {n} bytes from index {fault.validUpTo}"
  | none => s!"incomplete utf-8 byte sequence from index {fault.validUpTo}"

/-- What a nonempty byte string begins with. -/
inductive Head where
  /-- A character whose encoding has `more` bytes after the first. -/
  | scalar (c : Char) (more : Nat)
  /-- An ill-formed sequence with `more` bytes after the first. -/
  | broken (more : Nat)
  /-- A start of an encoding that the end of the bytes cuts off. -/
  | cut

/-- Bytes that may follow the first one of an encoding. -/
def isContinuation (b : UInt8) : Bool := 0x80 ≤ b && b ≤ 0xBF

/-- Second bytes that may follow the first byte of a three-byte encoding.
They keep out overlong forms and surrogates. -/
def fitsThree (first second : UInt8) : Bool :=
  if first = 0xE0 then 0xA0 ≤ second && second ≤ 0xBF
  else if first = 0xED then 0x80 ≤ second && second ≤ 0x9F
  else isContinuation second

/-- Second bytes that may follow the first byte of a four-byte encoding.
They keep out overlong forms and code points above U+10FFFF. -/
def fitsFour (first second : UInt8) : Bool :=
  if first = 0xF0 then 0x90 ≤ second && second ≤ 0xBF
  else if first = 0xF4 then 0x80 ≤ second && second ≤ 0x8F
  else isContinuation second

/-- The six payload bits of a continuation byte. -/
private def payload (b : UInt8) : Nat := b.toNat % 64

/-- Classifies the start of a byte string.  An ill-formed sequence is the
longest start of some encoding, or one byte if there is none. -/
def head (first : UInt8) (rest : Bytes) : Head :=
  if first < 0x80 then .scalar (Char.ofNat first.toNat) 0
  else if first < 0xC2 || 0xF4 < first then .broken 0
  else match rest with
    | [] => .cut
    | second :: rest =>
      if first < 0xE0 then
        if isContinuation second then
          .scalar (Char.ofNat (first.toNat % 32 * 64 + payload second)) 1
        else .broken 0
      else if first < 0xF0 then
        if fitsThree first second then
          match rest with
          | [] => .cut
          | third :: _ =>
            if isContinuation third then
              .scalar (Char.ofNat
                ((first.toNat % 16 * 64 + payload second) * 64 + payload third)) 2
            else .broken 1
        else .broken 0
      else if fitsFour first second then
        match rest with
        | [] => .cut
        | third :: rest =>
          if isContinuation third then
            match rest with
            | [] => .cut
            | fourth :: _ =>
              if isContinuation fourth then
                .scalar (Char.ofNat
                  (((first.toNat % 8 * 64 + payload second) * 64 + payload third) * 64
                    + payload fourth)) 3
              else .broken 2
          else .broken 1
      else .broken 0

/-- The first fault at or after the given index, if there is one. -/
def faultFrom? (index : Nat) : Bytes → Option Utf8Fault
  | [] => none
  | first :: rest =>
    match head first rest with
    | .scalar _ more => faultFrom? (index + 1 + more) (rest.drop more)
    | .broken more => some ⟨index, some (more + 1)⟩
    | .cut => some ⟨index, none⟩
termination_by bytes => bytes.length
decreasing_by simp only [List.length_drop, List.length_cons]; omega

/-- Reads UTF-8. -/
def decode (bytes : Bytes) : Except Utf8Fault String :=
  match String.fromUTF8? bytes.toByteArray with
  | some text => .ok text
  | none => .error ((faultFrom? 0 bytes).getD ⟨bytes.length, none⟩)

/-- The characters of a byte string, U+FFFD for each ill-formed sequence. -/
def scalars : Bytes → List Char
  | [] => []
  | first :: rest =>
    match head first rest with
    | .scalar c more => c :: scalars (rest.drop more)
    | .broken more => '\uFFFD' :: scalars (rest.drop more)
    | .cut => ['\uFFFD']
termination_by bytes => bytes.length
decreasing_by all_goals simp only [List.length_drop, List.length_cons]; omega

/-- Reads UTF-8 with U+FFFD in the place of what is ill-formed. -/
def decodeLossy (bytes : Bytes) : String :=
  match decode bytes with
  | .ok text => text
  | .error _ => String.ofList (scalars bytes)

theorem decode_encode (text : String) : decode (encode text) = .ok text := by
  have hbytes : (encode text).toByteArray = text.toUTF8 := by
    apply ByteArray.ext
    simp [encode]
  have hread : String.fromUTF8? text.toUTF8 = some text := by
    unfold String.fromUTF8?
    rw [String.toUTF8_eq_toByteArray, dif_pos text.isValidUTF8]
    rfl
  simp only [decode]
  rw [hbytes, hread]

theorem decode_eq_ok_iff {bytes : Bytes} {text : String} :
    decode bytes = .ok text ↔ bytes = encode text := by
  constructor
  · intro h
    unfold decode at h
    split at h
    · rename_i found hfound
      cases h
      unfold String.fromUTF8? at hfound
      split at hfound
      · cases hfound
        simp [encode, String.fromUTF8]
      · cases hfound
    · cases h
  · rintro rfl
    exact decode_encode text

theorem decodeLossy_encode (text : String) : decodeLossy (encode text) = text := by
  simp [decodeLossy, decode_encode]

end Text

end BrowserBridge
