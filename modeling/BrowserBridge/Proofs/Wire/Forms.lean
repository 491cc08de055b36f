import BrowserBridge.Proofs.Message.RoundTrip

/-!
The two forms of a header.  Either its first word carries the version, which sets the sign
bit, or it is the length of the name, which leaves the sign bit clear.  So the first word
tells the forms apart, and each of them is read wherever the limit leaves room for it.
-/

namespace BrowserBridge.Wire

namespace Header

/-- The name of a header behind its length. -/
def nameBytes (found : Header) : Bytes :=
  bytesOf 4 (Text.encode found.name).length ++ Text.encode found.name

/-- The bytes are the header with a word in front whose upper half is the version and whose
last byte is the code of the kind; the byte before that is free. -/
def IsStrict (found : Header) (bytes : Bytes) : Prop :=
  ∃ word, word / 0x10000 = 0x8001 ∧ word % 0x100 = found.kind.code.toNat ∧
    bytes = bytesOf 4 word ++ found.nameBytes ++ bytesOf 4 found.sequence.toUInt32.toNat

/-- The header without a version: the code of the kind stands behind the name. -/
def looseBytes (found : Header) : Bytes :=
  found.nameBytes ++ [found.kind.code] ++ bytesOf 4 found.sequence.toUInt32.toNat

/-- The word in front of a header with the version, as bytes. -/
theorem strictWord_iff {word : Nat} {code : UInt8} :
    (word / 0x10000 = 0x8001 ∧ word % 0x100 = code.toNat) ↔
      word < Nat.pow 256 4 ∧ word / 0x10000 * 0x10000 = version ∧ UInt8.ofNat word = code := by
  have hcode : UInt8.ofNat word = code ↔ word % 0x100 = code.toNat := by
    rw [← UInt8.toNat_inj, UInt8.toNat_ofNat']
  rw [hcode]
  unfold version
  change _ ↔ word < 4294967296 ∧ _
  constructor
  · rintro ⟨hupper, hlast⟩
    exact ⟨by omega, by omega, hlast⟩
  · rintro ⟨-, hupper, hlast⟩
    exact ⟨by omega, hlast⟩

/-- The first word of a header with the version is above every length. -/
theorem maxLength_lt_of_strictWord {word : Nat} (h : word / 0x10000 = 0x8001) :
    maxLength < word ∧ word < Nat.pow 256 4 := by
  change 2147483647 < word ∧ word < 4294967296
  omega

end Header

/-- The encodings of a header are its two forms. -/
theorem encodesHeader_iff_form {found : Header} {bytes : Bytes} :
    EncodesHeader found bytes ↔
      (Text.encode found.name).length ≤ maxLength ∧
        (found.IsStrict bytes ∨ bytes = found.looseBytes) := by
  constructor
  · intro h
    cases h with
    | strict spare hlength =>
        have hfront : [0x80, 0x01, spare, found.kind.code] = bytesOf 4
            (valueOf [0x80, 0x01, spare, found.kind.code]) := (bytesOf_valueOf _).symm
        have hword := valueOf_lt [0x80, 0x01, spare, found.kind.code]
        obtain ⟨hversion, hcode⟩ := (bytesOf_strict_iff hword).mpr ⟨spare, hfront.symm⟩
        obtain ⟨hupper, hlast⟩ := Header.strictWord_iff.mpr ⟨hword, hversion, hcode⟩
        refine ⟨hlength, .inl ⟨_, hupper, hlast, ?_⟩⟩
        rw [← hfront, Header.nameBytes]
        simp
    | loose hlength =>
        refine ⟨hlength, .inr ?_⟩
        simp [Header.looseBytes, Header.nameBytes]
  · rintro ⟨hlength, ⟨word, hupper, hlast, rfl⟩ | rfl⟩
    · obtain ⟨hword, hversion, hcode⟩ := Header.strictWord_iff.mp ⟨hupper, hlast⟩
      obtain ⟨spare, hfront⟩ := (bytesOf_strict_iff hword).mp ⟨hversion, hcode⟩
      rw [hfront, List.append_assoc]
      exact .strict spare hlength
    · have hloose := EncodesHeader.loose hlength
      simpa [Header.looseBytes, Header.nameBytes] using hloose

/-- No bytes begin with one header in the strict form and another one in the loose form. -/
theorem Header.IsStrict.ne_loose {first second : Header} {front back back' : Bytes}
    (hstrict : first.IsStrict front) (hlength : (Text.encode second.name).length ≤ maxLength) :
    front ++ back ≠ second.looseBytes ++ back' := by
  obtain ⟨word, hupper, -, rfl⟩ := hstrict
  obtain ⟨hlarge, hword⟩ := Header.maxLength_lt_of_strictWord hupper
  intro heq
  -- The first words are the version's word and the length of a name.
  have hwords : bytesOf 4 word = bytesOf 4 (Text.encode second.name).length := by
    simp only [Header.looseBytes, Header.nameBytes, List.append_assoc] at heq
    exact (List.append_inj heq (by simp)).1
  have hsmall : (Text.encode second.name).length < Nat.pow 256 4 :=
    Nat.lt_of_le_of_lt hlength (by decide)
  have hsame := bytesOf_inj hword hsmall hwords
  omega

/-- What a reader is left with that has read a header of so many bytes. -/
theorem header_append_of_encodes {found : Header} {bytes : Bytes} (h : EncodesHeader found bytes)
    (rest : Bytes) (ending : Ending) (counted : Nat) {limit : Nat} (hlimit : bytes.length ≤ limit) :
    header ⟨bytes ++ rest, ending, counted, limit⟩ = .ok found ⟨rest, ending, bytes.length, limit⟩ :=
  header_eq_ok_iff.mpr ⟨bytes, h, rfl, hlimit, (Nat.zero_add _).symm, rfl, rfl⟩

/-- Reading a header, whatever was counted before it.  It succeeds precisely if the unread bytes
begin with the header in one of its two forms, the name is no longer than a length can say
and the limit leaves room for the whole; these bytes are taken and nothing more.  In particular
what is written for a header and its form without the version are both read as that header,
and no bytes can be read in both forms. -/
theorem header_read_iff_form (unread : Bytes) (ending : Ending) (counted limit : Nat)
    (found : Header) :
    (∀ after, header ⟨unread, ending, counted, limit⟩ = .ok found after ↔
      ∃ bytes, unread = bytes ++ after.rest ∧ bytes.length ≤ limit ∧
        (Text.encode found.name).length ≤ maxLength ∧
        (found.IsStrict bytes ∨ bytes = found.looseBytes) ∧
        after = ⟨after.rest, ending, bytes.length, limit⟩) ∧
    ((Text.encode found.name).length ≤ maxLength →
      ∀ bytes, bytes = Encode.header found.name found.kind found.sequence ∨
          bytes = found.looseBytes →
        bytes.length ≤ limit →
        ∀ rest, header ⟨bytes ++ rest, ending, counted, limit⟩ =
          .ok found ⟨rest, ending, bytes.length, limit⟩) ∧
    ¬ ((∃ first : Header, ∃ front rest, first.IsStrict front ∧ unread = front ++ rest) ∧
      ∃ second : Header, (Text.encode second.name).length ≤ maxLength ∧
        ∃ rest, unread = second.looseBytes ++ rest) := by
  refine ⟨fun after => ?_, fun hlength bytes hbytes hlimit rest => ?_, ?_⟩
  · rw [header_eq_ok_iff]
    constructor
    · rintro ⟨bytes, hencodes, htakes⟩
      obtain ⟨hlength, hform⟩ := encodesHeader_iff_form.mp hencodes
      have hafter : after = ⟨after.rest, ending, 0 + bytes.length, limit⟩ :=
        htakes.unique ⟨htakes.rest, htakes.room, rfl, rfl, rfl⟩
      rw [Nat.zero_add] at hafter
      exact ⟨bytes, htakes.rest, htakes.room, hlength, hform, hafter⟩
    · rintro ⟨bytes, hrest, hroom, hlength, hform, hafter⟩
      refine ⟨bytes, encodesHeader_iff_form.mpr ⟨hlength, hform⟩, ?_⟩
      rw [hafter]
      exact ⟨hrest, hroom, (Nat.zero_add _).symm, rfl, rfl⟩
  · apply header_append_of_encodes _ rest ending counted hlimit
    rcases hbytes with rfl | rfl
    · exact Message.encodes_header hlength
    · exact encodesHeader_iff_form.mpr ⟨hlength, .inr rfl⟩
  · rintro ⟨⟨first, front, rest, hstrict, hunread⟩, second, hlength, rest', hunread'⟩
    exact hstrict.ne_loose hlength (hunread.symm.trans hunread')

/-- The header of a failure, under a negative number, in both forms and under a limit that
leaves just enough room for the longer one. -/
theorem header_read_iff_form_negative :
    let found : Header := ⟨"exécute", .exception, -2⟩
    let strict : Bytes :=
      [0x80, 1, 0, 3, 0, 0, 0, 8, 101, 120, 0xC3, 0xA9, 99, 117, 116, 101, 255, 255, 255, 254]
    let loose : Bytes :=
      [0, 0, 0, 8, 101, 120, 0xC3, 0xA9, 99, 117, 116, 101, 3, 255, 255, 255, 254]
    header ⟨strict ++ [0], .silent, 9, 20⟩ = .ok found ⟨[0], .silent, 20, 20⟩ ∧
      header ⟨loose ++ [0], .closed, 9, 20⟩ = .ok found ⟨[0], .closed, 17, 20⟩ := by
  intro found strict loose
  have hlength : (Text.encode found.name).length ≤ maxLength := by decide
  obtain ⟨-, hstrict, -⟩ := header_read_iff_form [] .silent 9 20 found
  obtain ⟨-, hloose, -⟩ := header_read_iff_form [] .closed 9 20 found
  exact ⟨hstrict hlength strict (.inl (by decide)) (by decide) [0],
    hloose hlength loose (.inr (by decide)) (by decide) [0]⟩

end BrowserBridge.Wire
