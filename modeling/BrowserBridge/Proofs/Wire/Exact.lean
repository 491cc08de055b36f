import BrowserBridge.Proofs.Wire.Grammar
import BrowserBridge.Wire.Reader

/-!
Exactness of reads.  A read is exact for a format if it succeeds precisely where
the unread bytes begin with bytes of the format that the limit leaves room for, and
then takes those bytes and nothing more.  Exactness passes through sequencing, so
the exactness of a composed read follows from that of its parts.
-/

namespace BrowserBridge.Wire

/-- What taking `bytes` off the front makes of a reader. -/
structure Reader.Takes (reader : Reader) (bytes : Bytes) (after : Reader) : Prop where
  rest : reader.rest = bytes ++ after.rest
  room : bytes.length ≤ reader.limit - reader.counted
  counted : after.counted = reader.counted + bytes.length
  ending : after.ending = reader.ending
  limit : after.limit = reader.limit

/-- The bytes that are taken and the reader before determine the reader after. -/
theorem Reader.Takes.unique {reader first second : Reader} {bytes : Bytes}
    (hfirst : reader.Takes bytes first) (hsecond : reader.Takes bytes second) :
    first = second := by
  have hrest : first.rest = second.rest :=
    List.append_cancel_left (hfirst.rest.symm.trans hsecond.rest)
  have hcounted := hfirst.counted.trans hsecond.counted.symm
  have hending := hfirst.ending.trans hsecond.ending.symm
  have hlimit := hfirst.limit.trans hsecond.limit.symm
  cases first
  cases second
  simp_all

theorem Reader.Takes.nil_iff {reader after : Reader} : reader.Takes [] after ↔ after = reader := by
  have hnone : reader.Takes [] reader := ⟨rfl, Nat.zero_le _, rfl, rfl, rfl⟩
  constructor
  · intro h
    exact h.unique hnone
  · rintro rfl
    exact hnone

theorem Reader.Takes.append_iff {reader after : Reader} {front back : Bytes} :
    reader.Takes (front ++ back) after ↔
      ∃ middle, reader.Takes front middle ∧ middle.Takes back after := by
  constructor
  · intro h
    have hroom := h.room
    have hcounted := h.counted
    rw [List.length_append] at hroom hcounted
    refine ⟨⟨back ++ after.rest, reader.ending, reader.counted + front.length, reader.limit⟩,
      ⟨by rw [h.rest, List.append_assoc], by omega, rfl, rfl, rfl⟩,
      ⟨rfl, ?_, ?_, h.ending, h.limit⟩⟩
    · change back.length ≤ reader.limit - (reader.counted + front.length)
      omega
    · change after.counted = reader.counted + front.length + back.length
      omega
  · intro h
    obtain ⟨middle, hfront, hback⟩ := h
    have hroom := hback.room
    rw [hfront.limit, hfront.counted] at hroom
    refine ⟨?_, ?_, ?_, hback.ending.trans hfront.ending, hback.limit.trans hfront.limit⟩
    · rw [hfront.rest, hback.rest, List.append_assoc]
    · have := hfront.room
      rw [List.length_append]
      omega
    · rw [hback.counted, hfront.counted, List.length_append, Nat.add_assoc]

section

-- Not only reads are acts that keep their state when they fail.
variable {ε σ α β : Type} {first : EStateM ε σ α} {start last : σ} {fault : ε}

theorem bind_of_ok {next : α → EStateM ε σ β} {a : α} (h : first start = .ok a last) :
    (first >>= next) start = next a last := by
  change EStateM.bind first next start = _
  rw [EStateM.bind, h]

theorem bind_of_error {next : α → EStateM ε σ β} (h : first start = .error fault last) :
    (first >>= next) start = .error fault last := by
  change EStateM.bind first next start = _
  rw [EStateM.bind, h]

theorem map_of_ok {f : α → β} {a : α} (h : first start = .ok a last) :
    (f <$> first) start = .ok (f a) last := by
  change EStateM.map f first start = _
  rw [EStateM.map, h]

theorem map_of_error {f : α → β} (h : first start = .error fault last) :
    (f <$> first) start = .error fault last := by
  change EStateM.map f first start = _
  rw [EStateM.map, h]

end

/-- The read is exact for the format on one reader. -/
def ExactOn {α : Type} (reader : Reader) (act : Read α) (format : α → Bytes → Prop) : Prop :=
  ∀ (a : α) (after : Reader),
    act reader = .ok a after ↔ ∃ bytes, format a bytes ∧ reader.Takes bytes after

/-- The read is exact for the format. -/
def Exact {α : Type} (act : Read α) (format : α → Bytes → Prop) : Prop :=
  ∀ reader, ExactOn reader act format

section

variable {α β : Type} {reader : Reader}

theorem bind_eq_ok_iff {first : Read α} {next : α → Read β} {b : β} {after : Reader} :
    (first >>= next) reader = .ok b after ↔
      ∃ a middle, first reader = .ok a middle ∧ next a middle = .ok b after := by
  change EStateM.bind first next reader = .ok b after ↔ _
  unfold EStateM.bind
  cases first reader with
  | error fault stopped => simp
  | ok a middle =>
      constructor
      · intro h
        exact ⟨a, middle, rfl, h⟩
      · intro h
        obtain ⟨_, _, heq, h⟩ := h
        cases heq
        exact h

theorem map_eq_ok_iff {f : α → β} {act : Read α} {b : β} {after : Reader} :
    (f <$> act) reader = .ok b after ↔ ∃ a, act reader = .ok a after ∧ f a = b := by
  change EStateM.map f act reader = .ok b after ↔ _
  unfold EStateM.map
  cases act reader with
  | error fault stopped => simp
  | ok a middle =>
      constructor
      · intro h
        cases h
        exact ⟨a, rfl, rfl⟩
      · intro h
        obtain ⟨_, heq, rfl⟩ := h
        cases heq
        rfl

theorem ExactOn.congr {act : Read α} {format other : α → Bytes → Prop}
    (h : ExactOn reader act format) (hformat : ∀ a bytes, format a bytes ↔ other a bytes) :
    ExactOn reader act other := by
  intro a after
  rw [h a after]
  simp only [hformat]

theorem Exact.congr {act : Read α} {format other : α → Bytes → Prop}
    (h : Exact act format) (hformat : ∀ a bytes, format a bytes ↔ other a bytes) :
    Exact act other :=
  fun reader => (h reader).congr hformat

theorem exact_pure (a : α) : Exact (pure a) fun b bytes => b = a ∧ bytes = [] := by
  intro reader b after
  change EStateM.Result.ok a reader = .ok b after ↔ _
  constructor
  · intro h
    cases h
    exact ⟨[], ⟨rfl, rfl⟩, Reader.Takes.nil_iff.mpr rfl⟩
  · intro h
    obtain ⟨bytes, ⟨rfl, rfl⟩, htakes⟩ := h
    rw [Reader.Takes.nil_iff.mp htakes]

theorem exact_refuse (cause : Malformed) : Exact (refuse cause : Read α) fun _ _ => False := by
  intro reader a after
  constructor
  · intro h
    cases h
  · intro h
    obtain ⟨_, hfalse, _⟩ := h
    exact hfalse.elim

/-- Sequencing: the second read has to be exact where the first one leaves off. -/
theorem ExactOn.bind {first : Read α} {next : α → Read β} {format : α → Bytes → Prop}
    {after : α → β → Bytes → Prop} (hfirst : ExactOn reader first format)
    (hnext : ∀ a front middle, format a front → reader.Takes front middle →
      ExactOn middle (next a) (after a)) :
    ExactOn reader (first >>= next) fun b bytes =>
      ∃ a front back, format a front ∧ after a b back ∧ bytes = front ++ back := by
  intro b last
  rw [bind_eq_ok_iff]
  constructor
  · intro h
    obtain ⟨a, middle, hok, hrest⟩ := h
    obtain ⟨front, hfront, hmiddle⟩ := (hfirst a middle).mp hok
    obtain ⟨back, hback, hlast⟩ := (hnext a front middle hfront hmiddle b last).mp hrest
    exact ⟨front ++ back, ⟨a, front, back, hfront, hback, rfl⟩,
      Reader.Takes.append_iff.mpr ⟨middle, hmiddle, hlast⟩⟩
  · intro h
    obtain ⟨_, ⟨a, front, back, hfront, hback, rfl⟩, htakes⟩ := h
    obtain ⟨middle, hmiddle, hlast⟩ := Reader.Takes.append_iff.mp htakes
    exact ⟨a, middle, (hfirst a middle).mpr ⟨front, hfront, hmiddle⟩,
      (hnext a front middle hfront hmiddle b last).mpr ⟨back, hback, hlast⟩⟩

theorem Exact.bind {first : Read α} {next : α → Read β} {format : α → Bytes → Prop}
    {after : α → β → Bytes → Prop} (hfirst : Exact first format)
    (hnext : ∀ a, Exact (next a) (after a)) :
    Exact (first >>= next) fun b bytes =>
      ∃ a front back, format a front ∧ after a b back ∧ bytes = front ++ back :=
  fun reader => (hfirst reader).bind fun a _ middle _ _ => hnext a middle

theorem Exact.map {f : α → β} {act : Read α} {format : α → Bytes → Prop} (h : Exact act format) :
    Exact (f <$> act) fun b bytes => ∃ a, format a bytes ∧ f a = b := by
  intro reader b after
  rw [map_eq_ok_iff]
  constructor
  · intro h
    obtain ⟨a, hok, hf⟩ := h
    obtain ⟨bytes, hbytes, htakes⟩ := (h reader a after).mp hok
    exact ⟨bytes, ⟨a, hbytes, hf⟩, htakes⟩
  · intro h
    obtain ⟨bytes, ⟨a, hbytes, hf⟩, htakes⟩ := h
    exact ⟨a, (h reader a after).mpr ⟨bytes, hbytes, htakes⟩, hf⟩

/-- A format that some exact read has is unambiguous: of two of its byte strings
neither begins a byte string that the other one begins. -/
theorem Exact.unambiguous {act : Read α} {format : α → Bytes → Prop} (h : Exact act format)
    {a b : α} {front front' back back' : Bytes} (hfront : format a front)
    (hfront' : format b front') (heq : front ++ back = front' ++ back') :
    a = b ∧ front = front' ∧ back = back' := by
  -- A reader with room for both byte strings reads them both.
  let reader : Reader := ⟨front ++ back, .closed, 0, front.length + front'.length⟩
  have hok : act reader = .ok a ⟨back, .closed, front.length, front.length + front'.length⟩ :=
    (h reader a _).mpr ⟨front, hfront, ⟨rfl, Nat.le_add_right _ _, (Nat.zero_add _).symm, rfl, rfl⟩⟩
  have hok' : act reader = .ok b ⟨back', .closed, front'.length, front.length + front'.length⟩ :=
    (h reader b _).mpr ⟨front', hfront',
      ⟨heq, Nat.le_add_left _ _, (Nat.zero_add _).symm, rfl, rfl⟩⟩
  rw [hok] at hok'
  injection hok' with hvalue hreader
  injection hreader with hback
  rw [hback] at heq
  exact ⟨hvalue, List.append_cancel_right heq, hback⟩

end

end BrowserBridge.Wire
