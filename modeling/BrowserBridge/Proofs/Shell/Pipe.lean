import BrowserBridge.Shell.World

/-!
Pipes.  Whatever is written to one comes out of it in the order of the writes, once, and other
files stay as they are.
-/

namespace BrowserBridge.Shell.World

section Replace

variable {α β : Type} [BEq α] [LawfulBEq α] {key other : α}

theorem lookup_replace_self (key : α) (value : β) (entries : List (α × β)) :
    (replace key value entries).lookup key = some value := by
  induction entries with
  | nil => simp [replace]
  | cons entry entries ih =>
      obtain ⟨name, old⟩ := entry
      by_cases hname : name = key
      · simp [replace, hname]
      · have hkey : (key == name) = false := beq_false_of_ne (Ne.symm hname)
        simpa [replace, hname, List.lookup_cons, hkey] using ih

theorem lookup_replace_of_ne (h : other ≠ key) (value : β) (entries : List (α × β)) :
    (replace key value entries).lookup other = entries.lookup other := by
  induction entries with
  | nil => simp [replace, List.lookup_cons, beq_false_of_ne h]
  | cons entry entries ih =>
      obtain ⟨name, old⟩ := entry
      by_cases hname : name = key
      · subst hname
        simp [replace, List.lookup_cons, beq_false_of_ne h]
      · simp [replace, hname, List.lookup_cons, ih]

end Replace

variable {world : World}

theorem content_setContent (number : Nat) (texts : List Chars) :
    (world.setContent number texts).content number = texts.reverse.flatten := by
  rw [content, setContent, lookup_replace_self]
  rfl

theorem content_setContent_of_ne {number other : Nat} (h : other ≠ number) (texts : List Chars) :
    (world.setContent number texts).content other = world.content other := by
  rw [content, setContent, lookup_replace_of_ne h]
  rfl

/-- Two open files that are the ends of a pipe with some content: one is read from a place in the
content, and the other adds to its end. -/
structure IsPipe (world : World) (reader writer content : Nat) : Prop where
  apart : reader ≠ writer
  reading : ∃ position, world.opened.lookup reader =
      some ⟨content, position, false, true, false, true⟩ ∧
    position ≤ (world.content content).length
  writing : world.opened.lookup writer = some ⟨content, 0, true, false, true, true⟩

/-- A new pipe has in it what was put there. -/
theorem isPipe_newPipe (world : World) (text : Chars) :
    let pipe := world.newPipe text
    pipe.2.2.IsPipe pipe.1 pipe.2.1 world.nextNumber ∧ pipe.2.2.unread pipe.1 = text := by
  have hcontent : (world.newPipe text).2.2.content world.nextNumber = text := by
    simp [newPipe, newContent, newOpened, content]
  have hreader : (world.newPipe text).2.2.opened.lookup (world.newPipe text).1 =
      some ⟨world.nextNumber, 0, false, true, false, true⟩ := by
    have hne : (world.nextNumber == world.nextNumber + 1) = false := by simp
    simp [newPipe, newContent, newOpened, List.lookup_cons, hne]
  refine ⟨⟨?_, ⟨0, hreader, Nat.zero_le _⟩, ?_⟩, ?_⟩
  · simp [newPipe, newContent, newOpened]
  · simp [newPipe, newContent, newOpened]
  · rw [unread, hreader]
    exact hcontent

variable {reader writer number : Nat}

/-- What is written to a pipe comes behind all that is in it. -/
theorem writeOpened_pipe (h : world.IsPipe reader writer number) (text : Chars) :
    (world.writeOpened writer text).IsPipe reader writer number ∧
      (world.writeOpened writer text).unread reader = world.unread reader ++ text := by
  obtain ⟨position, hreader, hposition⟩ := h.reading
  have hworld : world.writeOpened writer text =
      world.setContent number (text :: (world.contents.lookup number).getD []) := by
    rw [writeOpened, h.writing]
    rfl
  have hcontent : (world.writeOpened writer text).content number =
      world.content number ++ text := by
    rw [hworld, content_setContent, List.reverse_cons, List.flatten_append,
      List.flatten_singleton]
    rfl
  have hopened : (world.writeOpened writer text).opened = world.opened := by
    rw [hworld]
    rfl
  refine ⟨⟨h.apart, ⟨position, hopened ▸ hreader, ?_⟩, hopened ▸ h.writing⟩, ?_⟩
  · rw [hcontent, List.length_append]
    exact Nat.le_add_right_of_le hposition
  · rw [unread, unread, hopened, hreader]
    simp only [hcontent]
    exact List.drop_append_of_le_length hposition

/-- What is read from a pipe is what came first, and the rest is left. -/
theorem advance_pipe (h : world.IsPipe reader writer number) {count : Nat}
    (hcount : count ≤ (world.unread reader).length) :
    (world.advance reader count).IsPipe reader writer number ∧
      (world.advance reader count).unread reader = (world.unread reader).drop count := by
  obtain ⟨position, hreader, hposition⟩ := h.reading
  have hunread : world.unread reader = (world.content number).drop position := by
    rw [unread, hreader]
  have hworld : world.advance reader count = { world with
      opened := replace reader ⟨number, position + count, false, true, false, true⟩
        world.opened } := by
    rw [advance, hreader]
  have hafter : (world.advance reader count).opened.lookup reader =
      some ⟨number, position + count, false, true, false, true⟩ := by
    rw [hworld, lookup_replace_self]
  have hcontent : (world.advance reader count).content number = world.content number := by
    rw [hworld]
    rfl
  refine ⟨⟨h.apart, ⟨position + count, hafter, ?_⟩, ?_⟩, ?_⟩
  · rw [hcontent]
    rw [hunread, List.length_drop] at hcount
    omega
  · rw [hworld, lookup_replace_of_ne h.apart.symm, h.writing]
  · rw [unread, hafter]
    simp only [hcontent]
    rw [hunread, List.drop_drop]

/-- Something that is done with a pipe. -/
inductive PipeUse where
  | write (text : Chars)
  /-- Reads so many characters, or all if there are fewer. -/
  | read (count : Nat)

/-- What is read by one use of a pipe, and the world after it. -/
def use (reader writer : Nat) (world : World) : PipeUse → Chars × World
  | .write text => ([], world.writeOpened writer text)
  | .read count =>
    let text := (world.unread reader).take count
    (text, world.advance reader text.length)

/-- What is read by uses of a pipe, and the world after them. -/
def useAll (reader writer : Nat) (world : World) : List PipeUse → Chars × World
  | [] => ([], world)
  | first :: later =>
    let (text, world) := use reader writer world first
    let (more, world) := useAll reader writer world later
    (text ++ more, world)

/-- What is written by uses of a pipe. -/
def writtenBy : List PipeUse → Chars
  | [] => []
  | .write text :: later => text ++ writtenBy later
  | .read _ :: later => writtenBy later

theorem writtenBy_cons (first : PipeUse) (later : List PipeUse) :
    writtenBy (first :: later) = writtenBy [first] ++ writtenBy later := by
  cases first <;> simp [writtenBy]

theorem use_pipe (h : world.IsPipe reader writer number) (first : PipeUse) :
    (use reader writer world first).2.IsPipe reader writer number ∧
      (use reader writer world first).1 ++ (use reader writer world first).2.unread reader =
        world.unread reader ++ writtenBy [first] := by
  cases first with
  | write text =>
      obtain ⟨hpipe, hunread⟩ := writeOpened_pipe h text
      exact ⟨hpipe, by simpa [use, writtenBy] using hunread⟩
  | read count =>
      have hcount : ((world.unread reader).take count).length ≤ (world.unread reader).length :=
        List.length_take_le' count _
      obtain ⟨hpipe, hunread⟩ := advance_pipe h hcount
      refine ⟨hpipe, ?_⟩
      rw [use, hunread, List.length_take, ← List.drop_eq_drop_min, List.take_append_drop,
        writtenBy, writtenBy, List.append_nil]

/-- All that is read from a pipe, and what is left in it, is what was in it and what was written
to it, in that order. -/
theorem useAll_pipe (h : world.IsPipe reader writer number) (uses : List PipeUse) :
    (useAll reader writer world uses).2.IsPipe reader writer number ∧
      (useAll reader writer world uses).1 ++ (useAll reader writer world uses).2.unread reader =
        world.unread reader ++ writtenBy uses := by
  induction uses generalizing world with
  | nil => exact ⟨h, by simp [useAll, writtenBy]⟩
  | cons first later ih =>
      obtain ⟨hfirst, htext⟩ := use_pipe h first
      obtain ⟨hlater, hmore⟩ := ih hfirst
      refine ⟨hlater, ?_⟩
      rw [useAll, List.append_assoc, hmore, ← List.append_assoc, htext, List.append_assoc,
        ← writtenBy_cons]

end BrowserBridge.Shell.World
