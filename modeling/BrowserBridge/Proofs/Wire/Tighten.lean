import BrowserBridge.Proofs.Wire.Parts

/-!
Reads under a smaller limit and with fewer levels.  Where a generous read succeeds, the
tighter one succeeds alike or refuses; it never runs out of bytes or waits for more.  So
a whole encoding that has arrived is read or refused.
-/

namespace BrowserBridge.Wire

/-- Where the loose read succeeds, the tight one succeeds alike or refuses, whatever the
limit it is put under. -/
def Tightens {α : Type} (tight loose : Read α) : Prop :=
  ∀ (reader : Reader) (limit : Nat) (a : α) (after : Reader), loose reader = .ok a after →
    tight { reader with limit := limit } = .ok a { after with limit := limit } ∨
      ∃ cause stopped, tight { reader with limit := limit } = .error (.malformed cause) stopped

section

variable {α β : Type}

theorem tightens_pure (a : α) : Tightens (pure a) (pure a) := by
  intro reader limit b after h
  cases h
  exact .inl rfl

theorem tightens_refuse (cause : Malformed) (loose : Read α) : Tightens (refuse cause) loose :=
  fun _ _ _ _ _ => .inr ⟨cause, _, rfl⟩

theorem Tightens.bind {first first' : Read α} {next next' : α → Read β}
    (hfirst : Tightens first first') (hnext : ∀ a, Tightens (next a) (next' a)) :
    Tightens (first >>= next) (first' >>= next') := by
  intro reader limit b after h
  obtain ⟨a, middle, hloose, hrest⟩ := bind_eq_ok_iff.mp h
  rcases hfirst reader limit a middle hloose with htight | ⟨cause, stopped, htight⟩
  · rw [bind_of_ok htight]
    exact hnext a middle limit b after hrest
  · exact .inr ⟨cause, stopped, bind_of_error htight⟩

theorem tightens_count (n : Nat) : Tightens (count n) (count n) := by
  intro reader limit a after h
  cases h
  exact .inl rfl

theorem tightens_draw (n : Nat) (atEnd : IoFault) : Tightens (draw n atEnd) (draw n atEnd) := by
  intro reader limit content after h
  obtain ⟨hlength, hrest, hafter⟩ := draw_eq_ok_iff.mp h
  exact .inl (draw_eq_ok_iff.mpr ⟨hlength, hrest, by rw [hafter]⟩)

theorem tightens_fixed (n : Nat) : Tightens (fixed n) (fixed n) := by
  refine (tightens_count n).bind fun _ => ?_
  intro reader limit content after h
  rw [get_bind] at h ⊢
  split at h
  · cases h
  · split
    · exact .inr ⟨_, _, rfl⟩
    · exact tightens_draw n earlyEnd reader limit content after h

theorem tightens_checkLength (length : Int32) :
    Tightens (checkLength length) (checkLength length) := by
  unfold checkLength
  split
  · exact tightens_refuse _ _
  · intro reader limit n after h
    rw [get_bind] at h ⊢
    dsimp only at h ⊢
    split at h
    · cases h
    · cases h
      split
      · exact .inr ⟨_, _, rfl⟩
      · exact .inl rfl

theorem tightens_drawLong (n : Nat) : Tightens (drawLong n) (drawLong n) :=
  (tightens_count n).bind fun _ => tightens_draw n cutShort

theorem tightens_parts : Compositional fun act => Tightens act act where
  pure := tightens_pure
  refuse _ := tightens_refuse _ _
  bind := Tightens.bind
  fixed := tightens_fixed
  checkLength := tightens_checkLength
  drawLong length := (tightens_checkLength length).bind tightens_drawLong

-- What depends on the levels differs between the two reads, so it is no part of the above.
theorem Tightens.map {act act' : Read α} (f : α → β) (h : Tightens act act') :
    Tightens (f <$> act) (f <$> act') :=
  h.bind fun a => tightens_pure (f a)

theorem tightens_prefixed {next next' : Nat → Read α} (h : ∀ n, Tightens (next n) (next' n)) :
    Tightens (do next (← checkLength (← int32))) (do next' (← checkLength (← int32))) :=
  tightens_parts.int32.bind fun length => (tightens_checkLength length).bind h

theorem tightens_times {read read' : Read α} (h : Tightens read read') (n : Nat) :
    Tightens (times n read) (times n read') := by
  induction n with
  | zero => exact tightens_pure []
  | succ n ih => exact h.bind fun head => ih.bind fun tail => tightens_pure (head :: tail)

theorem Tightens.pair {first first' : Read α} {second second' : Read β}
    (hfirst : Tightens first first') (hsecond : Tightens second second') :
    Tightens (Prod.mk <$> first <*> second) (Prod.mk <$> first' <*> second') := by
  change Tightens ((Prod.mk <$> first) >>= fun pair => pair <$> second)
    ((Prod.mk <$> first') >>= fun pair => pair <$> second')
  exact (hfirst.map Prod.mk).bind fun pair => hsecond.map pair

/-- Fewer fields may be allowed, too. -/
theorem tightens_fields {read read' : Tag → Read Tree} (h : ∀ tag, Tightens (read tag) (read' tag))
    (most most' : Nat) : Tightens (fields read most) (fields read' most') := by
  induction most generalizing most' with
  | zero => exact fun _ _ _ _ _ => .inr ⟨_, _, rfl⟩
  | succ most ih =>
      cases most' with
      | zero =>
          intro reader limit found after hloose
          cases hloose
      | succ most' =>
          refine tightens_parts.tag.bind fun found => ?_
          by_cases hstop : found = .stop
          · rw [if_pos hstop, if_pos hstop]
            exact tightens_pure []
          · rw [if_neg hstop, if_neg hstop]
            exact tightens_parts.int16.bind fun id => (h found).bind fun head =>
              (ih most').bind fun tail => tightens_pure ((id, head) :: tail)

theorem tightens_struct {read read' : Tag → Read Tree}
    (h : ∀ tag, Tightens (read tag) (read' tag)) :
    Tightens (do fields read ((← get).limit + 1)) (do fields read' ((← get).limit + 1)) :=
  fun reader limit found after hloose =>
    tightens_fields h (limit + 1) (reader.limit + 1) reader limit found after hloose

theorem tightens_value (levels levels' : Nat) (tag : Tag) :
    Tightens (value levels tag) (value levels' tag) := by
  induction levels generalizing levels' tag with
  | zero => exact tightens_refuse _ _
  | succ levels ih =>
      cases levels' with
      | zero =>
          intro reader limit found after hloose
          cases hloose
      | succ levels' =>
          cases tag with
          | stop => exact tightens_refuse _ _
          | bool => exact tightens_parts.byte.map _
          | byte => exact tightens_parts.byte.map _
          | double => exact tightens_parts.word64.map _
          | i16 => exact tightens_parts.int16.map _
          | i32 => exact tightens_parts.int32.map _
          | i64 => exact tightens_parts.word64.map _
          | binary => exact tightens_parts.binary.map _
          | struct => exact (tightens_struct (ih levels')).map _
          | map =>
              exact tightens_parts.tag.bind fun keyTag => tightens_parts.tag.bind fun valueTag =>
                tightens_prefixed fun n => (tightens_times
                  ((ih levels' keyTag).pair (ih levels' valueTag)) n).map _
          | set =>
              exact tightens_parts.tag.bind fun elementTag =>
                tightens_prefixed fun n => (tightens_times (ih levels' elementTag) n).map _
          | list =>
              exact tightens_parts.tag.bind fun elementTag =>
                tightens_prefixed fun n => (tightens_times (ih levels' elementTag) n).map _

/-- Bytes of the format that have arrived are read or refused. -/
theorem Tightens.arrived {tight loose : Read α} {format : α → Bytes → Prop} {a : α}
    {bytes back : Bytes} {reader : Reader} (h : Tightens tight loose) (hloose : Exact loose format)
    (hformat : format a bytes) (hrest : reader.rest = bytes ++ back) :
    (∃ after, tight reader = .ok a after ∧ after.rest = back) ∨
      ∃ cause stopped, tight reader = .error (.malformed cause) stopped := by
  -- Under this limit there is just room for the bytes.
  let limit := reader.counted + bytes.length
  have hok : loose { reader with limit := limit } =
      .ok a ⟨back, reader.ending, limit, limit⟩ :=
    (hloose _ _ _).mpr ⟨bytes, hformat, hrest, by simp [limit], rfl, rfl, rfl⟩
  rcases h _ reader.limit _ _ hok with htight | hrefused
  · exact .inl ⟨_, htight, rfl⟩
  · exact .inr hrefused

/-- A header that has arrived is read or refused. -/
theorem header_arrived {found : Header} {bytes back : Bytes} {reader : Reader}
    (hheader : EncodesHeader found bytes) (hrest : reader.rest = bytes ++ back) :
    (∃ after, header reader = .ok found after ∧ after.rest = back) ∨
      ∃ cause stopped, header reader = .error (.malformed cause) stopped := by
  have hsame : header reader = (int32 >>= headerRest) { reader with counted := 0 } := rfl
  rw [hsame]
  exact tightens_parts.header.arrived exact_header hheader hrest

/-- A struct that has arrived is read or refused, however large and deep it is. -/
theorem struct_arrived {found : Fields} {bytes back : Bytes} {reader : Reader}
    (hstruct : Encodes .struct (.struct found) bytes) (hrest : reader.rest = bytes ++ back) :
    (∃ after, struct reader = .ok found after ∧ after.rest = back) ∨
      ∃ cause stopped, struct reader = .error (.malformed cause) stopped := by
  have hloose := exact_struct_fields (readsBelow_value (heightOfFields found))
  exact (tightens_struct (tightens_value maxDepth (heightOfFields found))).arrived hloose
    ⟨hstruct, Nat.le_refl _⟩ hrest

end

end BrowserBridge.Wire
