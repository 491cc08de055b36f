import BrowserBridge.Sidecar.Relay
import BrowserBridge.Proofs.Text.Ascii

/-!
The lines that a relay logs.  Any bytes can be parted at their newlines.  However they
arrive, a relay logs one record for each newline and one more for what follows the last of
them, if there is something and the stream does not fail.
-/

namespace BrowserBridge.Relay

/-- Bytes parted at their newlines: each of `bodies` was followed by one, and `tail` stands
behind the last. -/
structure Parted (bytes : Bytes) (bodies : List Bytes) (tail : Bytes) : Prop where
  joined : bytes = bodies.flatMap (· ++ [newline]) ++ tail
  body_pure : ∀ body ∈ bodies, newline ∉ body
  tail_pure : newline ∉ tail

/-- The lines that a stream is read in. -/
def linesOf (ended : End) (bodies : List Bytes) (tail : Bytes) : List Bytes :=
  bodies.map (· ++ [newline]) ++ if ended = .finished ∧ tail ≠ [] then [tail] else []

/-- What is logged of a line. -/
def recordOf (stream : OutputStream) (listener : String) (line : Bytes) : Record :=
  ⟨stream, listener, textOf line⟩

theorem linesOf_cons (ended : End) (body : Bytes) (bodies : List Bytes) (tail : Bytes) :
    linesOf ended (body :: bodies) tail = (body ++ [newline]) :: linesOf ended bodies tail :=
  rfl

theorem exists_parted (bytes : Bytes) : ∃ bodies tail, Parted bytes bodies tail := by
  induction bytes with
  | nil => exact ⟨[], [], rfl, by simp, by simp⟩
  | cons byte bytes ih =>
      obtain ⟨bodies, tail, hjoined, hbodies, htail⟩ := ih
      by_cases hbyte : byte = newline
      · exact ⟨[] :: bodies, tail, by rw [hjoined, hbyte]; rfl, by simpa using hbodies, htail⟩
      · cases bodies with
        | nil =>
            refine ⟨[], byte :: tail, by rw [hjoined]; rfl, by simp, ?_⟩
            simpa [Ne.symm hbyte] using htail
        | cons body bodies =>
            refine ⟨(byte :: body) :: bodies, tail, by rw [hjoined]; rfl, ?_, htail⟩
            obtain ⟨hbody, hrest⟩ := List.forall_mem_cons.mp hbodies
            exact List.forall_mem_cons.mpr ⟨by simpa [Ne.symm hbyte] using hbody, hrest⟩

namespace Source

/-- A newline that has arrived ends the line. -/
theorem readOn_append {ended : End} {taken body after : Bytes} {chunks : List Bytes}
    (hbody : newline ∉ body) :
    readOn ended taken (body ++ newline :: after) chunks =
      some (taken ++ body ++ [newline], ⟨after, chunks, ended⟩) := by
  have hindex : (body ++ newline :: after).idxOf newline = body.length := by
    rw [List.idxOf_append, if_neg hbody, List.idxOf_cons_self, Nat.zero_add]
  have hshape : body ++ newline :: after = (body ++ [newline]) ++ after := by simp
  have hlength : body.length + 1 = (body ++ [newline]).length := by simp
  rw [readOn.eq_def, if_pos (by simp)]
  simp only [hindex]
  rw [hlength, hshape, List.take_left, List.drop_left, List.append_assoc]

/-- A newline stands behind what has arrived or in it. -/
theorem later_or_arrived {arrived later body after : Bytes}
    (h : arrived ++ later = body ++ newline :: after) :
    (∃ more, body = arrived ++ more ∧ later = more ++ newline :: after) ∨
      ∃ more, arrived = body ++ newline :: more ∧ after = more ++ later := by
  rcases List.append_eq_append_iff.mp h with ⟨more, hbody, hlater⟩ | ⟨more, harrived, hrest⟩
  · exact .inl ⟨more, hbody, hlater⟩
  · cases more with
    | nil => exact .inl ⟨[], by rw [harrived]; simp, hrest.symm⟩
    | cons byte more =>
        obtain ⟨rfl, hafter⟩ := List.cons.inj hrest
        exact .inr ⟨more, harrived, hafter⟩

/-- The first newline ends the line, in whichever chunk it arrives. -/
theorem readOn_of_newline {ended : End} {taken arrived body after : Bytes}
    {chunks : List Bytes} (hbytes : arrived ++ chunks.flatten = body ++ newline :: after)
    (hbody : newline ∉ body) :
    ∃ rest : Source, readOn ended taken arrived chunks = some (taken ++ body ++ [newline], rest) ∧
      rest.bytes = after ∧ rest.ended = ended := by
  induction chunks generalizing taken arrived body with
  | nil =>
      rw [List.flatten_nil, List.append_nil] at hbytes
      rw [hbytes]
      exact ⟨_, readOn_append hbody, List.append_nil _, rfl⟩
  | cons chunk chunks ih =>
      rcases later_or_arrived hbytes with ⟨more, rfl, hlater⟩ | ⟨more, rfl, hafter⟩
      · have harrived : newline ∉ arrived := fun h => hbody (List.mem_append_left _ h)
        have hmore : newline ∉ more := fun h => hbody (List.mem_append_right _ h)
        rw [readOn, if_neg harrived, ← List.append_assoc taken]
        exact ih hlater hmore
      · exact ⟨_, readOn_append hbody, hafter.symm, rfl⟩

/-- Without a newline everything is taken, and it is a line if the stream ends there. -/
theorem readOn_of_notMem {ended : End} {taken arrived : Bytes} {chunks : List Bytes}
    (hnone : newline ∉ arrived ++ chunks.flatten) :
    readOn ended taken arrived chunks =
      if ended = .finished then some (taken ++ arrived ++ chunks.flatten, ⟨[], [], ended⟩)
      else none := by
  induction chunks generalizing taken arrived with
  | nil =>
      rw [List.flatten_nil, List.append_nil] at hnone
      rw [readOn, if_neg hnone, List.flatten_nil, List.append_nil]
  | cons chunk chunks ih =>
      rw [List.flatten_cons] at hnone
      have harrived : newline ∉ arrived := fun h => hnone (List.mem_append_left _ h)
      have hlater : newline ∉ chunk ++ chunks.flatten := fun h =>
        hnone (List.mem_append_right _ h)
      rw [readOn, if_neg harrived, ih hlater, List.flatten_cons,
        List.append_assoc (taken ++ arrived)]

theorem readLine_of_newline {source : Source} {body after : Bytes}
    (hbytes : source.bytes = body ++ newline :: after) (hbody : newline ∉ body) :
    ∃ rest : Source, source.readLine = some (body ++ [newline], rest) ∧
      rest.bytes = after ∧ rest.ended = source.ended :=
  readOn_of_newline hbytes hbody

theorem readLine_of_notMem {source : Source} (hnone : newline ∉ source.bytes) :
    source.readLine =
      if source.ended = .finished then some (source.bytes, ⟨[], [], source.ended⟩) else none :=
  readOn_of_notMem hnone

end Source

section

variable {stream : OutputStream} {listener : String} {logged : List Record} {count : UInt64}
  {source rest : Source} {line : Bytes}

theorem relay_of_line (hread : source.readLine = some (line, rest)) (hline : line ≠ []) :
    relay stream listener logged count source =
      relay stream listener (recordOf stream listener line :: logged) (count + 1) rest := by
  rw [relay]
  split
  · next found other hfound =>
    rw [hread] at hfound
    cases hfound
    rw [if_neg hline]
    rfl
  · next hfound =>
    rw [hread] at hfound
    cases hfound

theorem relay_of_end (hread : source.readLine = some ([], rest)) :
    relay stream listener logged count source = ⟨logged.reverse, count⟩ := by
  rw [relay]
  split
  · next found other hfound =>
    rw [hread] at hfound
    cases hfound
    rw [if_pos rfl]
  · rfl

theorem relay_of_failure (hread : source.readLine = none) :
    relay stream listener logged count source = ⟨logged.reverse, count⟩ := by
  rw [relay]
  split
  · next found other hfound =>
    rw [hread] at hfound
    cases hfound
  · rfl

/-- What follows the last newline is a line of its own if the stream ends behind it. -/
theorem relay_tail (htail : newline ∉ source.bytes) :
    relay stream listener logged count source =
      if source.ended = .finished ∧ source.bytes ≠ [] then
        ⟨(recordOf stream listener source.bytes :: logged).reverse, count + 1⟩
      else ⟨logged.reverse, count⟩ := by
  have hread := Source.readLine_of_notMem htail
  by_cases hended : source.ended = .finished
  · rw [if_pos hended] at hread
    by_cases hbytes : source.bytes = []
    · rw [hbytes] at hread
      rw [if_neg (fun h => h.2 hbytes), relay_of_end hread]
    · have hempty : newline ∉ (⟨[], [], source.ended⟩ : Source).bytes := by simp [Source.bytes]
      have hdone := Source.readLine_of_notMem hempty
      rw [if_pos hended] at hdone
      rw [if_pos ⟨hended, hbytes⟩, relay_of_line hread hbytes, relay_of_end hdone]
  · rw [if_neg hended] at hread
    rw [if_neg (fun h => hended h.1), relay_of_failure hread]

/-- A relay logs the lines of its stream and counts them, from wherever it stands. -/
theorem relay_of_parted {bodies : List Bytes} {tail : Bytes}
    (hparted : Parted source.bytes bodies tail) :
    relay stream listener logged count source =
      ⟨logged.reverse ++ (linesOf source.ended bodies tail).map (recordOf stream listener),
        count + UInt64.ofNat (linesOf source.ended bodies tail).length⟩ := by
  obtain ⟨hjoined, hbodies, htail⟩ := hparted
  induction bodies generalizing logged count source with
  | nil =>
      have hbytes : source.bytes = tail := hjoined
      rw [← hbytes] at htail ⊢
      rw [relay_tail htail, linesOf]
      by_cases hends : source.ended = .finished ∧ source.bytes ≠ []
      · rw [if_pos hends, if_pos hends]
        simp
      · rw [if_neg hends, if_neg hends]
        simp
  | cons body bodies ih =>
      obtain ⟨hbody, hrest⟩ := List.forall_mem_cons.mp hbodies
      have hbytes : source.bytes = body ++ newline :: (bodies.flatMap (· ++ [newline]) ++ tail) := by
        rw [hjoined]
        simp
      obtain ⟨rest, hread, hafter, hended⟩ := Source.readLine_of_newline hbytes hbody
      have hcount (n : Nat) : count + 1 + UInt64.ofNat n = count + UInt64.ofNat (n + 1) := by
        rw [UInt64.ofNat_add, UInt64.add_assoc, UInt64.add_comm 1]
        rfl
      rw [relay_of_line hread (by simp), ih hafter hrest, hended, hcount, linesOf_cons]
      simp

end

/-- What a relay does depends on the bytes of its stream and not on the chunks. -/
theorem run_of_parted (stream : OutputStream) (listener : String) {chunks : List Bytes}
    (ended : End) {bodies : List Bytes} {tail : Bytes}
    (hparted : Parted chunks.flatten bodies tail) :
    run stream listener chunks ended =
      ⟨(linesOf ended bodies tail).map (recordOf stream listener),
        UInt64.ofNat (linesOf ended bodies tail).length⟩ := by
  have hsource : Parted (Source.ofChunks chunks ended).bytes bodies tail := hparted
  rw [run, relay_of_parted hsource]
  simp [Source.ofChunks]

theorem lines_recordOf (stream : OutputStream) (listener : String) (lines : List Bytes) :
    (lines.map (recordOf stream listener)).map (·.line) = lines.map textOf := by
  rw [List.map_map]
  rfl

/-- There are as many bodies as newlines. -/
theorem Parted.count_newline {bytes : Bytes} {bodies : List Bytes} {tail : Bytes}
    (h : Parted bytes bodies tail) : bytes.count newline = bodies.length := by
  obtain ⟨rfl, hbodies, htail⟩ := h
  induction bodies with
  | nil => exact List.count_eq_zero.mpr htail
  | cons body bodies ih =>
      obtain ⟨hbody, hrest⟩ := List.forall_mem_cons.mp hbodies
      rw [List.flatMap_cons, List.append_assoc, List.count_append, ih hrest, List.count_append,
        List.count_eq_zero.mpr hbody, List.count_singleton_self, List.length_cons]
      omega

theorem getLast?_ne_of_notMem {byte : UInt8} {bytes : Bytes} (h : byte ∉ bytes) :
    bytes.getLast? ≠ some byte :=
  fun hlast => h (List.mem_of_getLast? hlast)

/-- Of a line without a carriage return the newline alone is dropped. -/
theorem textOf_line {body : Bytes} (hreturn : carriageReturn ∉ body) :
    textOf (body ++ [newline]) = Text.decodeLossy body := by
  rw [textOf, dropLastOf_append, dropLastOf_of_getLast? (getLast?_ne_of_notMem hreturn)]

theorem textOf_tail {tail : Bytes} (hnewline : newline ∉ tail)
    (hreturn : carriageReturn ∉ tail) : textOf tail = Text.decodeLossy tail := by
  rw [textOf, dropLastOf_of_getLast? (getLast?_ne_of_notMem hnewline),
    dropLastOf_of_getLast? (getLast?_ne_of_notMem hreturn)]

theorem linesOf_eq_nil_iff {bytes : Bytes} {bodies : List Bytes} {tail : Bytes}
    (h : Parted bytes bodies tail) : linesOf .finished bodies tail = [] ↔ bytes = [] := by
  rw [h.joined]
  cases bodies with
  | nil => by_cases htail : tail = [] <;> simp [linesOf, htail]
  | cons body bodies => simp [linesOf]

theorem eq_empty_of_encode {text : String} (h : Text.encode text = []) : text = "" := by
  rw [← Text.decodeLossy_encode text, h]
  exact Text.decodeLossy_encode ""

/-- The lines of well-formed text without carriage returns make up the text. -/
theorem Parted.joined_texts {text : String} {bodies : List Bytes} {tail : Bytes}
    (h : Parted (Text.encode text) bodies tail) (hreturn : carriageReturn ∉ Text.encode text) :
    "\n".intercalate ((linesOf .finished bodies tail).map textOf) ++
      (if (Text.encode text).getLast? = some newline then "\n" else "") = text := by
  induction bodies generalizing text with
  | nil =>
      have hbytes : Text.encode text = tail := h.joined
      have hlast := getLast?_ne_of_notMem h.tail_pure
      rw [hbytes] at hreturn ⊢
      rw [if_neg hlast]
      by_cases htail : tail = []
      · rw [eq_empty_of_encode (hbytes.trans htail), htail]
        rfl
      · have hlines : linesOf .finished [] tail = [tail] := by simp [linesOf, htail]
        rw [hlines, List.map_singleton, String.intercalate_singleton,
          textOf_tail h.tail_pure hreturn, ← hbytes, Text.decodeLossy_encode, String.append_empty]
  | cons body bodies ih =>
      obtain ⟨hbody, hbodies⟩ := List.forall_mem_cons.mp h.body_pure
      have hbytes : Text.encode text =
          body ++ newline :: (bodies.flatMap (· ++ [newline]) ++ tail) := by
        rw [h.joined]
        simp
      obtain ⟨left, right, htext, hleft, hright⟩ := Text.encode_cut (by decide) hbytes
      have hrest : Parted (Text.encode right) bodies tail := ⟨hright, hbodies, h.tail_pure⟩
      rw [hbytes, List.mem_append, List.mem_cons, not_or, not_or, ← hright] at hreturn
      obtain ⟨hreturnLeft, -, hreturnRight⟩ := hreturn
      have hline : textOf (body ++ [newline]) = left := by
        rw [textOf_line hreturnLeft, ← hleft, Text.decodeLossy_encode]
      have hjoined := ih hrest hreturnRight
      rw [linesOf_cons, List.map_cons, hline, hbytes, ← hright, htext]
      by_cases hempty : Text.encode right = []
      · have hlines := (linesOf_eq_nil_iff hrest).mpr hempty
        rw [hlines, hempty, eq_empty_of_encode hempty, if_pos (by simp)]
        simp
        rfl
      · have hlines := mt (linesOf_eq_nil_iff hrest).mp hempty
        have hlast : (body ++ newline :: Text.encode right).getLast? =
            (Text.encode right).getLast? := by
          rw [List.append_cons, List.getLast?_append, List.getLast?_eq_some_getLast hempty]
          rfl
        rw [String.intercalate_cons_of_ne_nil (by simpa using hlines), hlast,
          String.append_assoc, hjoined]
        rfl

/-- What a relay logs and counts, however the stream arrives.  Its bytes part at their
newlines; there is one record for each of them and one for what follows the last, if there
is something and the stream does not fail.  A record says what its own line says, and the
lines of well-formed text without carriage returns make up the text again. -/
theorem relayed_in_lines (stream : OutputStream) (listener : String) (chunks : List Bytes)
    (ended : End) :
    ∃ bodies tail, Parted chunks.flatten bodies tail ∧
      (run stream listener chunks ended).records =
        (linesOf ended bodies tail).map (recordOf stream listener) ∧
      (run stream listener chunks ended).records.length =
        chunks.flatten.count newline + (if ended = .finished ∧ tail ≠ [] then 1 else 0) ∧
      (run stream listener chunks ended).count =
        UInt64.ofNat (run stream listener chunks ended).records.length ∧
      ∀ text, Text.decode chunks.flatten = .ok text → carriageReturn ∉ chunks.flatten →
        ended = .finished →
        Text.encode
          ("\n".intercalate ((run stream listener chunks ended).records.map (·.line)) ++
            (if chunks.flatten.getLast? = some newline then "\n" else "")) = chunks.flatten := by
  obtain ⟨bodies, tail, hparted⟩ := exists_parted chunks.flatten
  have hrun := run_of_parted stream listener ended hparted
  refine ⟨bodies, tail, hparted, by rw [hrun], ?_, by rw [hrun, List.length_map], ?_⟩
  · rw [hrun, hparted.count_newline, List.length_map, linesOf, List.length_append,
      List.length_map]
    split <;> rfl
  · rintro text hdecode hreturn rfl
    have hbytes := Text.decode_eq_ok_iff.mp hdecode
    rw [hbytes] at hparted hreturn ⊢
    rw [hrun, lines_recordOf, hparted.joined_texts hreturn]

/-- An empty line, a line without its newline and a character that arrives in two chunks. -/
theorem relayed_in_lines_across_chunks :
    Text.decode [0xC3, 0xA9, 0x0A, 0x0A, 0x61] = .ok "é\n\na" ∧
      Text.encode
        ("\n".intercalate
            ((run .stderr "stderr listener" [[0xC3], [0xA9, 0x0A], [0x0A, 0x61]] .finished).records.map
              (·.line)) ++ "") = [0xC3, 0xA9, 0x0A, 0x0A, 0x61] := by
  have hdecode : Text.decode [0xC3, 0xA9, 0x0A, 0x0A, 0x61] = .ok "é\n\na" :=
    Text.decode_eq_ok_iff.mpr (by decide)
  obtain ⟨-, -, -, -, -, -, hjoined⟩ :=
    relayed_in_lines .stderr "stderr listener" [[0xC3], [0xA9, 0x0A], [0x0A, 0x61]] .finished
  exact ⟨hdecode, hjoined _ hdecode (by decide) rfl⟩

end BrowserBridge.Relay
