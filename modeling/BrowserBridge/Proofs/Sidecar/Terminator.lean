import BrowserBridge.Proofs.Sidecar.Lines

/-!
What a relay drops of a line.  A newline ends a line and is dropped, with a carriage return
right before it.  A carriage return at the end of the whole stream has no newline behind it
and is dropped too; any other one stays.
-/

namespace BrowserBridge.Relay

/-- A line without its terminator, which is a newline at its end together with a carriage
return right before it.  A line that ends otherwise has none. -/
def withoutTerminator (line : Bytes) : Bytes :=
  if line.getLast? = some newline then
    if line.dropLast.getLast? = some carriageReturn then line.dropLast.dropLast
    else line.dropLast
  else line

/-- The text that a line has without its terminator. -/
def properText (line : Bytes) : String := Text.decodeLossy (withoutTerminator line)

/-- With a newline at its end a line loses its terminator and nothing else. -/
theorem textOf_append_newline (body : Bytes) :
    textOf (body ++ [newline]) = properText (body ++ [newline]) := by
  rw [textOf, properText, withoutTerminator, dropLastOf_append, dropLastOf]
  simp

theorem properText_of_notMem {tail : Bytes} (htail : newline ∉ tail) :
    properText tail = Text.decodeLossy tail := by
  rw [properText, withoutTerminator, if_neg (getLast?_ne_of_notMem htail)]

/-- Without a newline a line keeps everything unless it ends with a carriage return. -/
theorem textOf_of_notMem {tail : Bytes} (htail : newline ∉ tail)
    (hreturn : tail.getLast? ≠ some carriageReturn) : textOf tail = properText tail := by
  rw [properText_of_notMem htail, textOf,
    dropLastOf_of_getLast? (getLast?_ne_of_notMem htail), dropLastOf_of_getLast? hreturn]

/-- A carriage return that it ends with is lost. -/
theorem properText_eq_append {tail : Bytes} (htail : newline ∉ tail)
    (hreturn : tail.getLast? = some carriageReturn) : properText tail = textOf tail ++ "\r" := by
  obtain ⟨body, rfl⟩ := List.getLast?_eq_some_iff.mp hreturn
  rw [properText_of_notMem htail, textOf, dropLastOf_of_getLast? (getLast?_ne_of_notMem htail),
    dropLastOf_append, Text.decodeLossy_append_ascii (by decide)]
  rfl

theorem getLast?_bodies_ne (bodies : List Bytes) :
    (bodies.flatMap (· ++ [newline])).getLast? ≠ some carriageReturn := by
  rcases List.eq_nil_or_concat bodies with rfl | ⟨before, body, rfl⟩
  · simp
  · have hlast : ((before.concat body).flatMap (· ++ [newline])).getLast? = some newline := by
      simp
    rw [hlast]
    decide

/-- A stream ends with a carriage return if what follows its last newline does. -/
theorem Parted.getLast?_eq_return_iff {bytes : Bytes} {bodies : List Bytes} {tail : Bytes}
    (h : Parted bytes bodies tail) :
    bytes.getLast? = some carriageReturn ↔ tail.getLast? = some carriageReturn := by
  rw [h.joined]
  by_cases htail : tail = []
  · subst htail
    simpa using getLast?_bodies_ne bodies
  · rw [List.getLast?_append, List.getLast?_eq_some_getLast htail]
    rfl

/-- Unless the stream ends with a carriage return, every line has its proper text. -/
theorem textOf_lines {ended : End} {bodies : List Bytes} {tail : Bytes}
    (htail : newline ∉ tail)
    (hreturn : ¬ (ended = .finished ∧ tail.getLast? = some carriageReturn)) :
    (linesOf ended bodies tail).map textOf = (linesOf ended bodies tail).map properText := by
  apply List.map_congr_left
  intro line hline
  rcases List.mem_append.mp hline with hbody | hrest
  · obtain ⟨body, -, rfl⟩ := List.mem_map.mp hbody
    exact textOf_append_newline body
  · split at hrest
    · next hends =>
      rw [List.mem_singleton.mp hrest]
      exact textOf_of_notMem htail fun hlast => hreturn ⟨hends.1, hlast⟩
    · cases hrest

/-- With one at the end of the stream the last text lacks it, and the others are proper. -/
theorem textOf_lines_of_return (bodies : List Bytes) {tail : Bytes} (htail : newline ∉ tail)
    (hreturn : tail.getLast? = some carriageReturn) :
    ∃ before last,
      (linesOf .finished bodies tail).map properText = before ++ [last ++ "\r"] ∧
      (linesOf .finished bodies tail).map textOf = before ++ [last] := by
  have hsome : tail ≠ [] := by
    rintro rfl
    cases hreturn
  have hlines : linesOf .finished bodies tail = linesOf .finished bodies [] ++ [tail] := by
    simp [linesOf, hsome]
  have hbefore : (linesOf .finished bodies []).map textOf =
      (linesOf .finished bodies []).map properText :=
    textOf_lines (by simp) (by simp)
  refine ⟨(linesOf .finished bodies []).map properText, textOf tail, ?_, ?_⟩
  · rw [hlines, List.map_append, List.map_singleton, properText_eq_append htail hreturn]
  · rw [hlines, List.map_append, List.map_singleton, hbefore]

theorem textOf_lines_ne {bodies : List Bytes} {tail : Bytes} (htail : newline ∉ tail)
    (hreturn : tail.getLast? = some carriageReturn) :
    (linesOf .finished bodies tail).map textOf ≠
      (linesOf .finished bodies tail).map properText := by
  obtain ⟨before, last, hproper, hlogged⟩ :=
    textOf_lines_of_return bodies htail hreturn
  rw [hproper, hlogged]
  intro heq
  have hlength := congrArg String.length (List.singleton_inj.mp (List.append_cancel_left heq))
  simp at hlength

/-- Precisely when a relay drops terminators and nothing else: unless the stream ends, and
does not fail, with a carriage return.  Then that one is missing from the last text, and
nothing from the others. -/
theorem only_terminators_dropped_iff (stream : OutputStream) (listener : String)
    (chunks : List Bytes) (ended : End) :
    ∃ bodies tail, Parted chunks.flatten bodies tail ∧
      ((run stream listener chunks ended).records.map (·.line) =
          (linesOf ended bodies tail).map properText ↔
        ¬ (ended = .finished ∧ chunks.flatten.getLast? = some carriageReturn)) ∧
      (ended = .finished → chunks.flatten.getLast? = some carriageReturn →
        ∃ before last, (linesOf ended bodies tail).map properText = before ++ [last ++ "\r"] ∧
          (run stream listener chunks ended).records.map (·.line) = before ++ [last]) := by
  obtain ⟨bodies, tail, hparted⟩ := exists_parted chunks.flatten
  have hlines : (run stream listener chunks ended).records.map (·.line) =
      (linesOf ended bodies tail).map textOf := by
    rw [run_of_parted _ _ _ hparted, lines_recordOf]
  rw [hlines, hparted.getLast?_eq_return_iff]
  refine ⟨bodies, tail, hparted, ⟨?_, textOf_lines hparted.tail_pure⟩, ?_⟩
  · rintro hproper ⟨rfl, hreturn⟩
    exact textOf_lines_ne hparted.tail_pure hreturn hproper
  · rintro rfl hreturn
    exact textOf_lines_of_return bodies hparted.tail_pure hreturn

/-- A carriage return before a newline is dropped with it, though it arrives in another
chunk, and one at the end of the stream is missing. -/
theorem only_terminators_dropped_before_return :
    ([[0x61, 0x0D], [0x0A, 0x62, 0x0D]] : List Bytes).flatten.getLast? = some carriageReturn ∧
      ∃ bodies tail, Parted [[0x61, 0x0D], [0x0A, 0x62, 0x0D]].flatten bodies tail ∧
        ∃ before last, (linesOf .finished bodies tail).map properText = before ++ [last ++ "\r"] ∧
          (run .stdout "stdout listener" [[0x61, 0x0D], [0x0A, 0x62, 0x0D]]
              .finished).records.map (·.line) = before ++ [last] := by
  obtain ⟨bodies, tail, hparted, -, hreturn⟩ := only_terminators_dropped_iff .stdout
    "stdout listener" [[0x61, 0x0D], [0x0A, 0x62, 0x0D]] .finished
  exact ⟨rfl, bodies, tail, hparted, hreturn rfl rfl⟩

/-- So a relay does not always drop terminators only: a carriage return that ends the
stream is none. -/
theorem terminators_not_always_all_dropped :
    ¬ ∀ (stream : OutputStream) (listener : String) (chunks : List Bytes) (ended : End)
      (bodies : List Bytes) (tail : Bytes), Parted chunks.flatten bodies tail →
        (run stream listener chunks ended).records.map (·.line) =
          (linesOf ended bodies tail).map properText := by
  intro h
  have hparted : Parted [[0x61, 0x62, 0x63, 0x0D]].flatten [] [0x61, 0x62, 0x63, 0x0D] :=
    ⟨rfl, by simp, by decide⟩
  have hproper := h .stdout "stdout listener" _ .finished _ _ hparted
  rw [run_of_parted _ _ _ hparted, lines_recordOf] at hproper
  exact textOf_lines_ne hparted.tail_pure rfl hproper

end BrowserBridge.Relay
