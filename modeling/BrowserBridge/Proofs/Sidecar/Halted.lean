import BrowserBridge.Proofs.Sidecar.Lines
import BrowserBridge.Sidecar.Program
import Mathlib.Data.List.Infix

/-!
Processes that are ended from outside.  What a launched program has written by then is the
beginning of what it writes if it is left alone, so its relays log the same lines, but for
one that it was in the middle of.
-/

namespace BrowserBridge

namespace Relay

/-- The first newline of some bytes tells what stands in front of it and behind it. -/
theorem body_unique {body body' after after' : Bytes} (hbody : newline ∉ body)
    (hbody' : newline ∉ body') (h : body ++ newline :: after = body' ++ newline :: after') :
    body = body' ∧ after = after' := by
  rcases Source.later_or_arrived h with ⟨more, rfl, hlater⟩ | ⟨more, rfl, -⟩
  · cases more with
    | nil => exact ⟨(List.append_nil body).symm, (List.cons.inj hlater).2⟩
    | cons byte more =>
        obtain ⟨rfl, -⟩ := List.cons.inj hlater
        simp at hbody'
  · simp at hbody

/-- The bodies of the beginning of some bytes are bodies of the whole. -/
theorem Parted.bodies_begin {early all tail tail' : Bytes} {bodies bodies' : List Bytes}
    (hearly : Parted early bodies tail) (hall : Parted all bodies' tail') (h : early <+: all) :
    bodies <+: bodies' := by
  induction bodies generalizing early all bodies' with
  | nil => exact List.nil_prefix
  | cons body bodies ih =>
      obtain ⟨more, rfl⟩ := h
      obtain ⟨hbody, hbodies⟩ := List.forall_mem_cons.mp hearly.body_pure
      have hjoined : early ++ more =
          body ++ newline :: (bodies.flatMap (· ++ [newline]) ++ tail ++ more) := by
        rw [hearly.joined]
        simp
      cases bodies' with
      | nil =>
          have htail : newline ∈ tail' := by
            have hwhole : early ++ more = tail' := hall.joined
            rw [← hwhole, hjoined]
            simp
          exact absurd htail hall.tail_pure
      | cons body' bodies' =>
          obtain ⟨hbody', hbodies'⟩ := List.forall_mem_cons.mp hall.body_pure
          have hwhole : early ++ more =
              body' ++ newline :: (bodies'.flatMap (· ++ [newline]) ++ tail') := by
            rw [hall.joined]
            simp
          obtain ⟨rfl, hafter⟩ := body_unique hbody hbody' (hjoined.symm.trans hwhole)
          rw [List.cons_prefix_cons]
          exact ⟨rfl, ih ⟨rfl, hbodies, hearly.tail_pure⟩ ⟨hafter, hbodies', hall.tail_pure⟩
            (List.prefix_append _ _)⟩

/-- A relay that sees the beginning of a stream logs what it logs of the whole, but for at
most one line, which was cut. -/
theorem run_of_beginning (stream : OutputStream) (listener : String) {early all : Bytes}
    (h : early <+: all) :
    ∃ whole cut, (run stream listener [early] .finished).records = whole ++ cut ∧
      whole.length = early.count newline ∧ cut.length ≤ 1 ∧
      whole <+: (run stream listener [all] .finished).records := by
  obtain ⟨bodies, tail, hearly⟩ := exists_parted early
  obtain ⟨bodies', tail', hall⟩ := exists_parted all
  have hsingle (bytes : Bytes) : [bytes].flatten = bytes := by simp
  rw [run_of_parted stream listener .finished ((hsingle early).symm ▸ hearly),
    run_of_parted stream listener .finished ((hsingle all).symm ▸ hall)]
  simp only [linesOf, List.map_append]
  refine ⟨_, _, rfl, ?_, ?_, ?_⟩
  · rw [List.length_map, List.length_map, hearly.count_newline]
  · split <;> simp
  · exact (((hearly.bodies_begin hall h).map _).map _).trans (List.prefix_append _ _)

end Relay

namespace Program

theorem writtenUntil_begins (world : Shell.World) (stream : OutputStream) (time : Nat) :
    writtenUntil world stream time <+: written world stream := by
  have hchunks (isEarly : Shell.Chunk → Bool) :
      (world.relayed stream).takeWhile isEarly <+: world.relayed stream :=
    List.takeWhile_prefix isEarly
  exact (hchunks _).flatMap _

/-- A launch that succeeds gives what a program does with arguments. -/
theorem launch_eq_ok {program : String} {args : List String} {found : Behaviour}
    (h : launch program args = .ok found) :
    ∃ path name words, found = behaviour path name words := by
  simp only [launch] at h
  split at h
  · cases h
  · cases hfind : find (Shell.ofText program) with
    | error fault => rw [hfind] at h; cases h
    | ok path =>
        rw [hfind] at h
        change (if _ then _ else _) = _ at h
        split at h
        · cases h
        · cases h
          exact ⟨_, _, _, rfl⟩

/-- What a launched program has written when it rests first is the beginning of what it
writes if it is left alone. -/
theorem early_begins {program : String} {args : List String} {found : Behaviour}
    (h : launch program args = .ok found) {stdout stderr : Bytes}
    (hrest : found.beforeRest = some (stdout, stderr)) :
    stdout <+: found.stdout ∧ stderr <+: found.stderr := by
  obtain ⟨path, name, words, rfl⟩ := launch_eq_ok h
  obtain ⟨time, -, hwritten⟩ := Option.map_eq_some_iff.mp hrest
  obtain ⟨rfl, rfl⟩ := Prod.mk.inj hwritten
  exact ⟨writtenUntil_begins _ _ _, writtenUntil_begins _ _ _⟩

/-- A launched program that is ended from outside has logged what it logs if it is left
alone, but for lines that were still to come and at most one that was cut. -/
theorem terminated_logs {program : String} {args : List String} {found : Behaviour}
    (h : launch program args = .ok found) (stream : OutputStream) :
    ∃ whole cut, (ProcessHandle.ofChild found).terminated.relayed stream = whole ++ cut ∧
      cut.length ≤ 1 ∧ whole <+: (ProcessHandle.ofChild found).relayed stream := by
  cases hrest : found.beforeRest with
  | none =>
      have hsame : (ProcessHandle.ofChild found).terminated = ProcessHandle.ofChild found := by
        simp [ProcessHandle.terminated, ProcessHandle.ofChild, hrest]
      rw [hsame]
      exact ⟨_, [], (List.append_nil _).symm, by simp, List.prefix_refl _⟩
  | some early =>
      obtain ⟨stdout, stderr⟩ := early
      have hended : (ProcessHandle.ofChild found).terminated =
          ProcessHandle.ofChild ⟨stdout, stderr, .signalled killSignal, none⟩ := by
        simp [ProcessHandle.terminated, ProcessHandle.ofChild, hrest]
      obtain ⟨hout, herr⟩ := early_begins h hrest
      have hlogs {early all : Bytes} (hbegins : early <+: all) :
          ∃ whole cut, (Relay.run stream stream.listener [early] .finished).records =
              whole ++ cut ∧ cut.length ≤ 1 ∧
            whole <+: (Relay.run stream stream.listener [all] .finished).records := by
        obtain ⟨whole, cut, hlogged, -, hcut, hwhole⟩ :=
          Relay.run_of_beginning stream stream.listener hbegins
        exact ⟨whole, cut, hlogged, hcut, hwhole⟩
      rw [hended]
      cases stream with
      | stdout => exact hlogs hout
      | stderr => exact hlogs herr

end Program

end BrowserBridge
