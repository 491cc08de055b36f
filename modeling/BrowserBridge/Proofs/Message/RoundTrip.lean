import BrowserBridge.Proofs.List.Firsts
import BrowserBridge.Proofs.Message.Lawful

/-!
Messages of every schema, written one after the other, are read back in order, and
what follows them stays unread.
-/

namespace BrowserBridge

open Wire

/-- The schemas of the records that are sent. -/
inductive Schema where
  | noArguments
  | initializeArguments
  | executeArguments
  | layoutArguments
  | reportArguments
  | noResult
  | executeResult
  | layoutResult
  | countResult
  | response
  | commandFailure
  | specMissing
  | callFailure
  deriving DecidableEq, Repr

namespace Schema

/-- The records of a schema. -/
abbrev Content : Schema → Type
  | noArguments => NoArguments
  | initializeArguments => InitializeArguments
  | executeArguments => ExecuteArguments
  | layoutArguments => LayoutArguments
  | reportArguments => ReportArguments
  | noResult => NoResult
  | executeResult => ExecuteResult
  | layoutResult => LayoutResult
  | countResult => CountResult
  | response => Response
  | commandFailure => CommandFailure
  | specMissing => SpecMissing
  | callFailure => CallFailure

instance : (schema : Schema) → Record schema.Content
  | noArguments => inferInstanceAs (Record NoArguments)
  | initializeArguments => inferInstanceAs (Record InitializeArguments)
  | executeArguments => inferInstanceAs (Record ExecuteArguments)
  | layoutArguments => inferInstanceAs (Record LayoutArguments)
  | reportArguments => inferInstanceAs (Record ReportArguments)
  | noResult => inferInstanceAs (Record NoResult)
  | executeResult => inferInstanceAs (Record ExecuteResult)
  | layoutResult => inferInstanceAs (Record LayoutResult)
  | countResult => inferInstanceAs (Record CountResult)
  | response => inferInstanceAs (Record Response)
  | commandFailure => inferInstanceAs (Record CommandFailure)
  | specMissing => inferInstanceAs (Record SpecMissing)
  | callFailure => inferInstanceAs (Record CallFailure)

instance : (schema : Schema) → LawfulRecord schema.Content
  | noArguments => inferInstanceAs (LawfulRecord NoArguments)
  | initializeArguments => inferInstanceAs (LawfulRecord InitializeArguments)
  | executeArguments => inferInstanceAs (LawfulRecord ExecuteArguments)
  | layoutArguments => inferInstanceAs (LawfulRecord LayoutArguments)
  | reportArguments => inferInstanceAs (LawfulRecord ReportArguments)
  | noResult => inferInstanceAs (LawfulRecord NoResult)
  | executeResult => inferInstanceAs (LawfulRecord ExecuteResult)
  | layoutResult => inferInstanceAs (LawfulRecord LayoutResult)
  | countResult => inferInstanceAs (LawfulRecord CountResult)
  | response => inferInstanceAs (LawfulRecord Response)
  | commandFailure => inferInstanceAs (LawfulRecord CommandFailure)
  | specMissing => inferInstanceAs (LawfulRecord SpecMissing)
  | callFailure => inferInstanceAs (LawfulRecord CallFailure)

end Schema

/-- A message whose content has a schema. -/
structure Message where
  header : Header
  schema : Schema
  content : schema.Content

section

variable {α : Type} [Record α]

theorem exact_ofFields (fields : Fields) :
    Exact (match (Record.ofFields fields : Except Malformed α) with
      | .ok record => return record
      | .error cause => refuse cause : Read α)
      fun (a : α) bytes => Record.ofFields fields = .ok a ∧ bytes = [] := by
  cases (Record.ofFields fields : Except Malformed α) with
  | ok record =>
      refine (exact_pure record).congr fun a bytes => ?_
      rw [Except.ok.injEq, eq_comm]
  | error cause =>
      refine (exact_refuse cause).congr fun a bytes => ?_
      simp

/-- The reader of records is exact for the structs that the record is read off. -/
theorem exact_read : Exact (Record.read : Read α) fun a bytes =>
    ∃ fields, Record.ofFields fields = .ok a ∧ Encodes .struct (.struct fields) bytes ∧
      (Tree.struct fields).height ≤ maxDepth := by
  refine (exact_struct.bind exact_ofFields).congr fun a bytes => ?_
  constructor
  · intro h
    obtain ⟨fields, front, _, ⟨hstruct, hheight⟩, ⟨hrecord, rfl⟩, rfl⟩ := h
    exact ⟨fields, hrecord, by rwa [List.append_nil], hheight⟩
  · intro h
    obtain ⟨fields, hrecord, hstruct, hheight⟩ := h
    exact ⟨fields, bytes, [], ⟨hstruct, hheight⟩, ⟨hrecord, rfl⟩, (List.append_nil bytes).symm⟩

/-- No record is nested deeper than a struct may be. -/
theorem height_pieces_le [LawfulRecord α] (a : α) :
    (Tree.struct (Piece.fieldsOf (LawfulRecord.pieces a))).height ≤ maxDepth :=
  Nat.le_trans (Piece.height_fieldsOf_le _) LawfulRecord.levels_le

/-- A record whose lengths fit their words is read back. -/
theorem read_encode [LawfulRecord α] (a : α)
    (hlengths : ∀ n ∈ Piece.lengthsOf (LawfulRecord.pieces a), n ≤ maxLength)
    {reader after : Reader} (htakes : reader.Takes (Record.encode a) after) :
    (Record.read : Read α) reader = .ok (LawfulRecord.settled a) after := by
  rw [LawfulRecord.encode_eq] at htakes
  exact (exact_read reader _ after).mpr ⟨_, ⟨_, LawfulRecord.ofFields_eq a,
    Piece.encodes_body _ hlengths, height_pieces_le a⟩, htakes⟩

end

/-- Reads messages whose contents have the given schemas. -/
def readMessages : List Schema → Read (List Message)
  | [] => return []
  | schema :: rest => do
    let header ← Wire.header
    let content : schema.Content ← Record.read
    return ⟨header, schema, content⟩ :: (← readMessages rest)

namespace Message

/-- A message as it is sent. -/
def bytes (message : Message) : Bytes :=
  Record.message message.header.name message.header.kind message.header.sequence message.content

/-- What a message is read back as. -/
def settled (message : Message) : Message :=
  { message with content := LawfulRecord.settled message.content }

/-- The set of texts that a message carries, if it carries one. -/
def set? : Message → Option (List String)
  | ⟨_, .response, response⟩ => response.value.bind Value.texts?
  | ⟨_, .executeResult, result⟩ => (result.success.bind Response.value).bind Value.texts?
  | _ => none

/-- The lengths that are written into a message. -/
def lengths (message : Message) : List Nat :=
  (Text.encode message.header.name).length :: Piece.lengthsOf (LawfulRecord.pieces message.content)

theorem bytes_eq (message : Message) :
    message.bytes =
      Encode.header message.header.name message.header.kind message.header.sequence ++
        Piece.bodyOf (LawfulRecord.pieces message.content) := by
  rw [bytes, Record.message, LawfulRecord.encode_eq]

theorem lengths_le (message : Message) : ∀ n ∈ message.lengths, n ≤ message.bytes.length := by
  rw [lengths, List.forall_mem_cons, bytes_eq, List.length_append]
  constructor
  · simp only [Encode.header, Encode.text, List.length_append]
    omega
  · intro n hn
    exact Nat.le_add_left_of_le (Piece.lengthsOf_le _ n hn)

/-- Whether a message stays within a limit, and the lengths in it within their words. -/
def Fits (limit : Nat) (message : Message) : Prop :=
  message.bytes.length ≤ limit ∧ (limit ≤ maxLength ∨ ∀ n ∈ message.lengths, n ≤ maxLength)

theorem Fits.lengths_le {message : Message} {limit : Nat} (h : message.Fits limit) :
    ∀ n ∈ message.lengths, n ≤ maxLength := by
  obtain ⟨hlimit, hsmall | hlengths⟩ := h
  · intro n hn
    exact Nat.le_trans (message.lengths_le n hn) (Nat.le_trans hlimit hsmall)
  · exact hlengths

theorem encodes_header {header : Header} (h : (Text.encode header.name).length ≤ maxLength) :
    EncodesHeader header (Encode.header header.name header.kind header.sequence) := by
  have hstrict := EncodesHeader.strict 0 h
  rw [← Encode.length_eq h] at hstrict
  simpa only [Encode.header, Encode.text, Encode.int32, List.append_assoc] using hstrict

theorem encodes (message : Message) (hlengths : ∀ n ∈ message.lengths, n ≤ maxLength) :
    EncodesMessage message.header (Piece.fieldsOf (LawfulRecord.pieces message.content))
      message.bytes := by
  rw [lengths, List.forall_mem_cons] at hlengths
  exact ⟨_, _, encodes_header hlengths.1, Piece.encodes_body _ hlengths.2, message.bytes_eq⟩

end Message

/-- One message, whatever was counted before it. -/
theorem readMessages_cons (message : Message) (schemas : List Schema) {reader after : Reader}
    (hlengths : ∀ n ∈ message.lengths, n ≤ maxLength)
    (htakes : Reader.Takes { reader with counted := 0 } message.bytes after) :
    readMessages (message.schema :: schemas) reader =
      (List.cons message.settled <$> readMessages schemas) after := by
  rw [Message.lengths, List.forall_mem_cons] at hlengths
  obtain ⟨middle, hfront, hback⟩ := Reader.Takes.append_iff.mp htakes
  have hheader : Wire.header reader = .ok message.header middle :=
    header_eq_ok_iff.mpr ⟨_, Message.encodes_header hlengths.1, hfront⟩
  have hcontent := read_encode message.content hlengths.2 hback
  change (Wire.header >>= _) reader = _
  rw [bind_of_ok hheader, bind_of_ok hcontent]
  rfl

/-- Messages are read back in order if their lengths fit their words. -/
theorem readMessages_append (messages : List Message) (tail : Bytes) (ending : Ending)
    (limit : Nat) (hlimit : ∀ message ∈ messages, message.bytes.length ≤ limit)
    (hlengths : ∀ message ∈ messages, ∀ n ∈ message.lengths, n ≤ maxLength) (counted : Nat) :
    ∃ last, readMessages (messages.map Message.schema)
        ⟨messages.flatMap Message.bytes ++ tail, ending, counted, limit⟩ =
      .ok (messages.map Message.settled) ⟨tail, ending, last, limit⟩ := by
  induction messages generalizing counted with
  | nil => exact ⟨counted, rfl⟩
  | cons head rest ih =>
      rw [List.forall_mem_cons] at hlimit hlengths
      obtain ⟨last, hrest⟩ := ih hlimit.2 hlengths.2 head.bytes.length
      refine ⟨last, ?_⟩
      have htakes : Reader.Takes ⟨head.bytes ++ (rest.flatMap Message.bytes ++ tail), ending, 0,
          limit⟩ head.bytes ⟨rest.flatMap Message.bytes ++ tail, ending, head.bytes.length,
          limit⟩ := ⟨rfl, hlimit.1, (Nat.zero_add _).symm, rfl, rfl⟩
      rw [List.map_cons, List.flatMap_cons, List.append_assoc,
        readMessages_cons head _ hlengths.1 htakes]
      exact map_eq_ok_iff.mpr ⟨_, hrest, rfl⟩

theorem Value.settled_of_nodup {value : Value}
    (h : ∀ values, value.texts? = some values → values.Nodup) : value.settled = value := by
  cases value with
  | text value => rfl
  | flag value => rfl
  | texts values => exact congrArg Value.texts (Firsts.eraseDups_of_nodup (h values rfl))

theorem Response.settled_of_nodup {response : Response}
    (h : ∀ values, response.value.bind Value.texts? = some values → values.Nodup) :
    LawfulRecord.settled response = response := by
  rcases response with ⟨_ | value, _, _, _⟩
  · rfl
  · have hvalue := Value.settled_of_nodup h
    simp only [LawfulRecord.settled, Option.map_some, hvalue]

/-- Nothing but a set with equal texts changes. -/
theorem Message.settled_of_nodup {message : Message}
    (h : ∀ values, message.set? = some values → values.Nodup) : message.settled = message := by
  rcases message with ⟨header, schema, content⟩
  cases schema with
  | response =>
      have hcontent := Response.settled_of_nodup h
      simp only [Message.settled, hcontent]
  | executeResult =>
      rcases content with ⟨_ | response, failure⟩
      · rfl
      · have hcontent := Response.settled_of_nodup h
        have hsettled : LawfulRecord.settled (ExecuteResult.mk (some response) failure) =
            ⟨some (LawfulRecord.settled response), failure⟩ := rfl
        rw [hcontent] at hsettled
        exact congrArg (Message.mk header .executeResult) hsettled
  | _ => rfl

theorem Value.nodup_of_ofFields? {fields : Fields} {values : List String}
    (h : Value.ofFields? fields = .ok (some (.texts values))) : values.Nodup := by
  unfold Value.ofFields? at h
  cases htext : fields.text? 1 with
  | error cause =>
      rw [htext] at h
      cases h
  | ok text =>
      cases htexts : fields.textSet? 3 with
      | error cause =>
          rw [htext, htexts] at h
          cases h
      | ok texts =>
          rw [htext, htexts] at h
          have hfirst : (texts.map ofTexts <|> (fields.bool? 2).map flag <|> text.map Value.text) =
              some (.texts values) := Except.ok.inj h
          cases texts with
          | some texts =>
              cases hfirst
              exact Firsts.nodup_eraseDups texts
          | none =>
              cases hflag : fields.bool? 2 with
              | some value =>
                  rw [hflag] at hfirst
                  cases hfirst
              | none =>
                  rw [hflag] at hfirst
                  cases text <;> cases hfirst

/-- Messages of any schemas are read back in order, and what follows them stays
unread.  No message may exceed the limit, and no length its word.  Of a message only a
set of texts may change: of equal texts the first stays, so a set without equal texts
stays as it is, and no set with equal texts is ever read. -/
theorem readMessages_bytes (messages : List Message) (tail : Bytes) (ending : Ending)
    (counted limit : Nat) (hlimit : ∀ message ∈ messages, message.bytes.length ≤ limit)
    (hlengths : limit ≤ maxLength ∨
      ∀ message ∈ messages, ∀ n ∈ message.lengths, n ≤ maxLength) :
    (∃ last, readMessages (messages.map Message.schema)
        ⟨messages.flatMap Message.bytes ++ tail, ending, counted, limit⟩ =
          .ok (messages.map Message.settled) ⟨tail, ending, last, limit⟩) ∧
      (∀ message : Message, (∀ values, message.set? = some values → values.Nodup) →
        message.settled = message) ∧
      ∀ fields values, Value.ofFields? fields = .ok (some (.texts values)) → values.Nodup := by
  have hfit : ∀ message ∈ messages, ∀ n ∈ message.lengths, n ≤ maxLength := by
    rcases hlengths with hsmall | hfit
    · intro message hmessage n hn
      exact Nat.le_trans (message.lengths_le n hn) (Nat.le_trans (hlimit message hmessage) hsmall)
    · exact hfit
  exact ⟨readMessages_append messages tail ending limit hlimit hfit counted,
    fun _ => Message.settled_of_nodup, fun _ _ => Value.nodup_of_ofFields?⟩

/-- A set that was written with a text twice, a message after it and a byte left over. -/
theorem readMessages_bytes_repeated_text :
    let messages : List Message :=
      [⟨⟨"execute", .reply, 7⟩, .executeResult,
          ⟨some ⟨some (.texts ["b", "a", "b"]), some "s", some 0, none⟩, none⟩⟩,
        ⟨⟨"check_layout", .call, -1⟩, .layoutArguments,
          ⟨some "t", none, some "p", ["x", "x"], []⟩⟩]
    (∀ message ∈ messages, message.bytes.length ≤ 67) ∧
      ∃ last, readMessages [.executeResult, .layoutArguments]
          ⟨messages.flatMap Message.bytes ++ [9], .silent, 1000, 67⟩ =
        .ok [⟨⟨"execute", .reply, 7⟩, .executeResult,
              ⟨some ⟨some (.texts ["b", "a"]), some "s", some 0, none⟩, none⟩⟩,
            ⟨⟨"check_layout", .call, -1⟩, .layoutArguments,
              ⟨some "t", none, some "p", ["x", "x"], []⟩⟩]
          ⟨[9], .silent, last, 67⟩ := by
  intro messages
  have hlimit : ∀ message ∈ messages, message.bytes.length ≤ 67 := by decide
  exact ⟨hlimit, (readMessages_bytes messages [9] .silent 1000 67 hlimit (.inl (by decide))).1⟩

end BrowserBridge
