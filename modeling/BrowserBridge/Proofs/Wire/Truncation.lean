import BrowserBridge.Message.Reply
import BrowserBridge.Proofs.Wire.Parts

/-!
Messages of which only a beginning arrives.  Over the beginning of what a read takes, the
read does as before up to the cut and meets the end of the stream there: no check that
passed before fails, and no value is made of what is missing.
-/

namespace BrowserBridge.Wire

/-- The reader over no more than the first bytes, after which the peer closes the stream. -/
def Reader.cut (reader : Reader) (kept : Nat) : Reader :=
  { reader with rest := reader.rest.take kept, ending := .closed }

theorem Reader.cut_append {reader after : Reader} {taken : Bytes} {kept : Nat}
    (hrest : reader.rest = taken ++ after.rest) (hkept : taken.length ≤ kept) :
    reader.rest.take kept = taken ++ after.rest.take (kept - taken.length) := by
  rw [hrest, List.take_append, List.take_of_length_le hkept]

/-- The run fails because the peer is gone. -/
def EndsEarly {α : Type} (run : EStateM.Result ReadFault Reader α) : Prop :=
  ∃ fault stopped, run = .error (.io fault) stopped ∧ fault.kind = .unexpectedEnd

/-- Where the read succeeds, it does so too over any beginning that holds what it takes,
and over a shorter one it meets the end. -/
def FollowsCut {α : Type} (act : Read α) : Prop :=
  ∀ (reader : Reader) (a : α) (after : Reader), act reader = .ok a after →
    ∃ taken, reader.rest = taken ++ after.rest ∧ ∀ kept,
      (taken.length ≤ kept → act (reader.cut kept) = .ok a (after.cut (kept - taken.length))) ∧
      (kept < taken.length → EndsEarly (act (reader.cut kept)))

section

variable {α β : Type}

theorem followsCut_pure (a : α) : FollowsCut (pure a) := by
  intro reader b after h
  cases h
  exact ⟨[], rfl, fun kept => ⟨fun _ => rfl, fun h => absurd h (Nat.not_lt_zero _)⟩⟩

theorem followsCut_refuse (cause : Malformed) : FollowsCut (refuse cause : Read α) := by
  intro reader a after h
  cases h

theorem FollowsCut.bind {first : Read α} {next : α → Read β} (hfirst : FollowsCut first)
    (hnext : ∀ a, FollowsCut (next a)) : FollowsCut (first >>= next) := by
  intro reader b after h
  obtain ⟨a, middle, hact, hlast⟩ := bind_eq_ok_iff.mp h
  obtain ⟨front, hfront, hbefore⟩ := hfirst reader a middle hact
  obtain ⟨back, hback, hbehind⟩ := hnext a middle b after hlast
  refine ⟨front ++ back, by rw [hfront, hback, List.append_assoc], fun kept => ?_⟩
  obtain ⟨hwhole, hcut⟩ := hbefore kept
  obtain ⟨hwhole', hcut'⟩ := hbehind (kept - front.length)
  rw [List.length_append]
  constructor
  · intro hkept
    rw [bind_of_ok (hwhole (by omega)), hwhole' (by omega), Nat.sub_sub]
  · intro hkept
    by_cases hinside : kept < front.length
    · obtain ⟨fault, stopped, hact', hkind⟩ := hcut hinside
      exact ⟨fault, stopped, bind_of_error hact', hkind⟩
    · rw [bind_of_ok (hwhole (by omega))]
      exact hcut' (by omega)

/-- Where there are fewer bytes than are drawn, they are all taken. -/
theorem draw_of_few {n : Nat} {atEnd : IoFault} {reader : Reader} (hfew : reader.rest.length < n) :
    draw n atEnd reader = .error (reader.ending.fault atEnd) { reader with rest := [] } := by
  have htake : reader.rest.take n = reader.rest := List.take_of_length_le (Nat.le_of_lt hfew)
  have hdrop : reader.rest.drop n = [] := List.drop_of_length_le (Nat.le_of_lt hfew)
  simp only [draw, get_bind, set_bind, List.splitAt_eq, htake, hdrop]
  rw [if_neg (Nat.ne_of_lt hfew)]
  rfl

theorem followsCut_draw (n : Nat) {atEnd : IoFault} (hend : atEnd.kind = .unexpectedEnd) :
    FollowsCut (draw n atEnd) := by
  intro reader content after h
  obtain ⟨hlength, hrest, hafter⟩ := draw_eq_ok_iff.mp h
  refine ⟨content, hrest, fun kept => ⟨fun hkept => ?_, fun hkept => ?_⟩⟩
  · refine draw_eq_ok_iff.mpr ⟨hlength, Reader.cut_append hrest hkept, ?_⟩
    rw [hafter]
    rfl
  · have hfew : (reader.cut kept).rest.length < n := by
      have hshort : (reader.rest.take kept).length ≤ kept := List.length_take_le kept reader.rest
      exact Nat.lt_of_le_of_lt hshort (hlength ▸ hkept)
    exact ⟨atEnd, _, draw_of_few hfew, hend⟩

/-- A read that looks at nothing but counts and limits does the same over a beginning. -/
theorem followsCut_fixed (n : Nat) : FollowsCut (fixed n) := by
  intro reader content after h
  by_cases hover : reader.limit < reader.counted + n
  · simp only [fixed, count_bind, get_bind] at h
    rw [if_pos hover] at h
    cases h
  · have hdraw (other : Reader) (hother : ¬ other.limit < other.counted + n) :
        fixed n other = draw n earlyEnd { other with counted := other.counted + n } := by
      simp only [fixed, count_bind, get_bind]
      rw [if_neg hother]
    rw [hdraw reader hover] at h
    obtain ⟨taken, hrest, hkept⟩ := followsCut_draw n rfl _ content after h
    refine ⟨taken, hrest, fun kept => ?_⟩
    rw [hdraw (reader.cut kept) hover]
    exact hkept kept

theorem followsCut_checkLength (length : Int32) : FollowsCut (checkLength length) := by
  intro reader n after h
  obtain ⟨hpositive, hn, hroom, rfl⟩ := checkLength_eq_ok_iff.mp h
  refine ⟨[], rfl, fun kept => ⟨fun _ => ?_, fun h => absurd h (Nat.not_lt_zero _)⟩⟩
  exact checkLength_eq_ok_iff.mpr ⟨hpositive, hn, hroom, rfl⟩

theorem followsCut_drawLong (n : Nat) : FollowsCut (drawLong n) := by
  intro reader content after h
  exact followsCut_draw n rfl { reader with counted := reader.counted + n } content after h

theorem followsCut_parts : Compositional FollowsCut where
  pure := followsCut_pure
  refuse _ := followsCut_refuse _
  bind := FollowsCut.bind
  fixed := followsCut_fixed
  checkLength := followsCut_checkLength
  drawLong length := (followsCut_checkLength length).bind followsCut_drawLong

theorem followsCut_fields {read : Tag → Read Tree} (hread : ∀ tag, FollowsCut (read tag))
    (most : Nat) : FollowsCut (fields read most) := by
  induction most with
  | zero =>
      intro reader found after h
      cases h
  | succ most ih =>
      refine followsCut_parts.tag.bind fun found => ?_
      by_cases hstop : found = .stop
      · rw [if_pos hstop]
        exact followsCut_pure []
      · rw [if_neg hstop]
        exact followsCut_parts.int16.bind fun id => (hread found).bind fun head =>
          ih.bind fun tail => followsCut_pure ((id, head) :: tail)

theorem followsCut_struct : FollowsCut struct :=
  followsCut_parts.struct fun _ hread reader =>
    followsCut_fields hread (reader.limit + 1) reader

theorem followsCut_header : FollowsCut header := by
  intro reader found after h
  exact followsCut_parts.header { reader with counted := 0 } found after h

end

theorem isDisconnect_of_unexpectedEnd {fault : IoFault} (h : fault.kind = .unexpectedEnd)
    (method : String) (patience : Nat) :
    ((ReadFault.io fault).toFault method patience).isDisconnect = true := by
  change fault.kind.isDisconnect = true
  rw [h]
  rfl

/-- Of a message that is read over all the bytes only a beginning arrives, and the limit is
the same.  Wherever the cut is among the bytes that were taken, either the header or,
behind the same header, the struct fails, and it fails because the peer is gone. -/
theorem cut_message_is_disconnect (bytes : Bytes) (ending : Ending) (counted limit : Nat)
    {found : Header} {fields : Fields} {middle after : Reader}
    (hheader : header ⟨bytes, ending, counted, limit⟩ = .ok found middle)
    (hstruct : struct middle = .ok fields after) (kept : Nat)
    (hkept : kept < bytes.length - after.rest.length) :
    ∃ fault stopped, fault.kind = .unexpectedEnd ∧
      (header ⟨bytes.take kept, .closed, counted, limit⟩ = .error (.io fault) stopped ∨
        ∃ between, header ⟨bytes.take kept, .closed, counted, limit⟩ = .ok found between ∧
          struct between = .error (.io fault) stopped) ∧
      ∀ method patience, ((ReadFault.io fault).toFault method patience).isDisconnect = true := by
  obtain ⟨front, hfront, hbefore⟩ := followsCut_header _ found middle hheader
  obtain ⟨back, hback, hbehind⟩ := followsCut_struct middle fields after hstruct
  obtain ⟨hwhole, hcut⟩ := hbefore kept
  have hlength : bytes.length = front.length + back.length + after.rest.length := by
    change bytes = front ++ middle.rest at hfront
    rw [hfront, hback, List.length_append, List.length_append, Nat.add_assoc]
  by_cases hinside : kept < front.length
  · obtain ⟨fault, stopped, hfails, hkind⟩ := hcut hinside
    exact ⟨fault, stopped, hkind, .inl hfails, isDisconnect_of_unexpectedEnd hkind⟩
  · obtain ⟨fault, stopped, hfails, hkind⟩ := (hbehind (kept - front.length)).2 (by omega)
    exact ⟨fault, stopped, hkind, .inr ⟨_, hwhole (by omega), hfails⟩,
      isDisconnect_of_unexpectedEnd hkind⟩

/-- Only the end of the struct is missing. -/
theorem cut_message_is_disconnect_before_stop :
    let body := Record.encode (CommandFailure.mk (some "gone"))
    let bytes := Encode.header "m" .exception 3 ++ body ++ [9]
    let middle : Reader := ⟨body ++ [9], .silent, 13, 40⟩
    header ⟨bytes, .silent, 7, 40⟩ = .ok ⟨"m", .exception, 3⟩ middle ∧
      (∃ fields, struct middle = .ok fields ⟨[9], .silent, 25, 40⟩) ∧
      ∃ fault stopped, fault.kind = .unexpectedEnd ∧
        (header ⟨bytes.take 24, .closed, 7, 40⟩ = .error (.io fault) stopped ∨
          ∃ between, header ⟨bytes.take 24, .closed, 7, 40⟩ = .ok ⟨"m", .exception, 3⟩ between ∧
            struct between = .error (.io fault) stopped) := by
  intro body bytes middle
  have hheader : header ⟨bytes, .silent, 7, 40⟩ = .ok ⟨"m", .exception, 3⟩ middle :=
    header_eq_ok_iff.mpr ⟨_, .strict 0 (by decide), rfl, by decide, rfl, rfl, rfl⟩
  have hstruct : struct middle =
      .ok [(1, .binary [103, 111, 110, 101])] ⟨[9], .silent, 25, 40⟩ := by rfl
  obtain ⟨fault, stopped, hkind, hfails, -⟩ :=
    cut_message_is_disconnect bytes .silent 7 40 hheader hstruct 24 (by decide)
  exact ⟨hheader, ⟨_, hstruct⟩, fault, stopped, hkind, hfails⟩

end BrowserBridge.Wire
