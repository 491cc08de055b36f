import BrowserBridge.Message.Failure
import BrowserBridge.Proofs.Wire.Parts

/-!
What reads take off a stream.  However a read ends, it takes no more bytes than the limit
leaves room for, and it counts what it takes.  So from one header to the next no more
bytes are taken than the limit allows, and once something was refused for the limit
nothing more is taken before the next header.
-/

namespace BrowserBridge.Wire

/-- What a read makes of a reader, whether it succeeds or not. -/
structure Reader.Spends (reader after : Reader) : Prop where
  ending : after.ending = reader.ending
  limit : after.limit = reader.limit
  taken : ∃ bytes, reader.rest = bytes ++ after.rest ∧
    bytes.length ≤ reader.limit - reader.counted ∧ reader.counted + bytes.length ≤ after.counted

theorem Reader.Spends.refl (reader : Reader) : reader.Spends reader :=
  ⟨rfl, rfl, [], rfl, Nat.zero_le _, Nat.le_refl _⟩

theorem Reader.Spends.counted_le {reader after : Reader} (h : reader.Spends after) :
    reader.counted ≤ after.counted := by
  obtain ⟨bytes, -, -, hcounted⟩ := h.taken
  omega

theorem Reader.Spends.trans {reader middle after : Reader} (hfirst : reader.Spends middle)
    (hsecond : middle.Spends after) : reader.Spends after := by
  obtain ⟨front, hfront, hroom, hcounted⟩ := hfirst.taken
  obtain ⟨back, hback, hroom', hcounted'⟩ := hsecond.taken
  have hlimit := hfirst.limit
  refine ⟨hsecond.ending.trans hfirst.ending, hsecond.limit.trans hlimit, front ++ back, ?_, ?_, ?_⟩
  · rw [hfront, hback, List.append_assoc]
  · -- A count above the limit leaves no room, so nothing is taken then.
    rw [List.length_append]
    omega
  · rw [List.length_append]
    omega

section

variable {α β : Type} {reader : Reader}

/-- On this reader the read spends what there is room for, and if it is refused for the
limit, more than the limit is counted. -/
def FrugalOn (reader : Reader) (act : Read α) : Prop :=
  match act reader with
  | .ok _ after => reader.Spends after
  | .error fault stopped =>
    reader.Spends stopped ∧
      ∀ limit, fault = .malformed (.overLimit limit) → stopped.limit < stopped.counted

/-- The read is frugal on every reader. -/
def Frugal (act : Read α) : Prop := ∀ reader, FrugalOn reader act

theorem FrugalOn.of_ok {act : Read α} {a : α} {after : Reader} (h : FrugalOn reader act)
    (hact : act reader = .ok a after) : reader.Spends after := by
  unfold FrugalOn at h
  rwa [hact] at h

theorem FrugalOn.of_error {act : Read α} {fault : ReadFault} {stopped : Reader}
    (h : FrugalOn reader act) (hact : act reader = .error fault stopped) :
    reader.Spends stopped ∧
      ∀ limit, fault = .malformed (.overLimit limit) → stopped.limit < stopped.counted := by
  unfold FrugalOn at h
  rwa [hact] at h

theorem frugal_pure (a : α) : Frugal (pure a) := fun reader => Reader.Spends.refl reader

theorem frugal_refuse {cause : Malformed} (hcause : ∀ limit, cause ≠ .overLimit limit) :
    Frugal (refuse cause : Read α) := by
  intro reader
  refine ⟨Reader.Spends.refl reader, fun limit hlimit => ?_⟩
  cases hlimit
  exact absurd rfl (hcause limit)

theorem FrugalOn.bind {first : Read α} {next : α → Read β} (hfirst : FrugalOn reader first)
    (hnext : ∀ a middle, first reader = .ok a middle → reader.Spends middle →
      FrugalOn middle (next a)) : FrugalOn reader (first >>= next) := by
  cases hact : first reader with
  | error fault stopped =>
      unfold FrugalOn
      rw [bind_of_error hact]
      exact hfirst.of_error hact
  | ok a middle =>
      have hspends := hfirst.of_ok hact
      have hrest := hnext a middle hact hspends
      unfold FrugalOn at hrest ⊢
      rw [bind_of_ok hact]
      cases hlast : next a middle with
      | ok b after =>
          rw [hlast] at hrest
          exact hspends.trans hrest
      | error fault stopped =>
          rw [hlast] at hrest
          exact ⟨hspends.trans hrest.1, hrest.2⟩

theorem Frugal.bind {first : Read α} {next : α → Read β} (hfirst : Frugal first)
    (hnext : ∀ a, Frugal (next a)) : Frugal (first >>= next) :=
  fun reader => (hfirst reader).bind fun a middle _ _ => hnext a middle

/-- Bytes that there is room for are counted and drawn. -/
theorem frugalOn_draw {n : Nat} {atEnd : IoFault} (hroom : n ≤ reader.limit - reader.counted) :
    FrugalOn reader (do count n; draw n atEnd) := by
  have hlength : (reader.rest.take n).length ≤ n := List.length_take_le n reader.rest
  have hspends : reader.Spends
      ⟨reader.rest.drop n, reader.ending, reader.counted + n, reader.limit⟩ :=
    ⟨rfl, rfl, reader.rest.take n, (List.take_append_drop n reader.rest).symm, by omega,
      Nat.add_le_add_left hlength _⟩
  unfold FrugalOn
  rw [count_bind]
  simp only [draw, get_bind, set_bind, List.splitAt_eq]
  by_cases henough : (reader.rest.take n).length = n
  · rw [if_pos henough]
    exact hspends
  · rw [if_neg henough]
    refine ⟨hspends, fun limit hlimit => ?_⟩
    cases hending : reader.ending <;> rw [hending] at hlimit <;> cases hlimit

theorem frugal_fixed (n : Nat) : Frugal (fixed n) := by
  intro reader
  by_cases hover : reader.limit < reader.counted + n
  · have hrefused : fixed n reader = .error (.malformed (.overLimit reader.limit))
        { reader with counted := reader.counted + n } := by
      simp only [fixed, count_bind, get_bind]
      rw [if_pos hover]
      rfl
    unfold FrugalOn
    rw [hrefused]
    exact ⟨⟨rfl, rfl, [], rfl, Nat.zero_le _, Nat.le_add_right _ _⟩, fun _ _ => hover⟩
  · have hdrawn : fixed n reader = (do count n; draw n earlyEnd : Read Bytes) reader := by
      simp only [fixed, count_bind, get_bind]
      rw [if_neg hover]
    unfold FrugalOn
    rw [hdrawn]
    exact frugalOn_draw (by omega)

theorem frugal_checkLength (length : Int32) : Frugal (checkLength length) := by
  intro reader
  unfold checkLength
  by_cases hnegative : length < 0
  · rw [if_pos hnegative]
    exact frugal_refuse (by simp) reader
  · rw [if_neg hnegative]
    unfold FrugalOn
    rw [get_bind]
    by_cases hlong : reader.limit - reader.counted < length.toNatClampNeg
    · rw [if_pos hlong]
      exact frugal_refuse (α := Nat) (by simp) reader
    · rw [if_neg hlong]
      exact Reader.Spends.refl reader

theorem frugal_drawLong (length : Int32) : Frugal (checkLength length >>= drawLong) := by
  intro reader
  refine (frugal_checkLength length reader).bind fun n middle hcheck _ => ?_
  obtain ⟨-, -, hroom, rfl⟩ := checkLength_eq_ok_iff.mp hcheck
  exact frugalOn_draw hroom

theorem frugal_parts : Compositional Frugal where
  pure := frugal_pure
  refuse := frugal_refuse
  bind := Frugal.bind
  fixed := frugal_fixed
  checkLength := frugal_checkLength
  drawLong := frugal_drawLong

/-- The count exceeds the limit before the fields run out, since every field counts. -/
theorem frugalOn_fields {read : Tag → Read Tree} (hread : ∀ tag, Frugal (read tag)) (most : Nat)
    (hmost : reader.limit < reader.counted + most) : FrugalOn reader (fields read most) := by
  induction most generalizing reader with
  | zero => exact ⟨Reader.Spends.refl reader, fun _ _ => hmost⟩
  | succ most ih =>
      refine (frugal_parts.tag reader).bind fun found middle hfound _ => ?_
      obtain ⟨_, rfl, htakes⟩ := (exact_tag reader found middle).mp hfound
      have hcounted : middle.counted = reader.counted + 1 := htakes.counted
      have hlimit := htakes.limit
      by_cases hstop : found = .stop
      · rw [if_pos hstop]
        exact frugal_pure [] middle
      · rw [if_neg hstop]
        refine (frugal_parts.int16 middle).bind fun id second _ hsecond =>
          (hread found second).bind fun head third _ hthird => ?_
        have hspent := (hsecond.trans hthird).counted_le
        have hsame := (hsecond.trans hthird).limit
        exact (ih (by omega)).bind fun tail last _ _ => frugal_pure ((id, head) :: tail) last

theorem frugal_struct : Frugal struct :=
  frugal_parts.struct fun _ hread _ => frugalOn_fields hread _ (by omega)

/-- With more counted than the limit allows, a struct is refused before anything is
drawn. -/
theorem struct_of_over (hover : reader.limit < reader.counted) :
    struct reader = .error (.malformed (.overLimit reader.limit))
      { reader with counted := reader.counted + 1 } := by
  have hfixed : fixed 1 reader = .error (.malformed (.overLimit reader.limit))
      { reader with counted := reader.counted + 1 } := by
    simp only [fixed, count_bind, get_bind]
    rw [if_pos (Nat.lt_succ_of_lt hover)]
    rfl
  have hbyte : byte reader = .error (.malformed (.overLimit reader.limit))
      { reader with counted := reader.counted + 1 } :=
    bind_of_error (bind_of_error hfixed)
  have htag : tag reader = .error (.malformed (.overLimit reader.limit))
      { reader with counted := reader.counted + 1 } := bind_of_error hbyte
  change (tag >>= _) reader = _
  exact bind_of_error htag

end

/-- What a reader is asked for. -/
inductive Demand : Type 1 where
  | header
  | struct
  /-- A struct, read as a record of the type. -/
  | record (α : Type) [Record α]

namespace Demand

/-- What a demand is answered with. -/
abbrev Answer : Demand → Type
  | header => Header
  | struct => Fields
  | record α => α

/-- The read that answers a demand. -/
def read : (demand : Demand) → Read demand.Answer
  | header => Wire.header
  | struct => Wire.struct
  | record _ => Record.read

def isHeader : Demand → Bool
  | header => true
  | _ => false

/-- What a demand draws: a record is made of a struct. -/
def drawn : Demand → Demand
  | record _ => struct
  | demand => demand

/-- Fixed-size data that the demand draws is refused for the limit. -/
def IsOverrun (demand : Demand) (reader : Reader) : Prop :=
  ∃ limit stopped, demand.drawn.read reader = .error (.malformed (.overLimit limit)) stopped

end Demand

namespace Reader

/-- The reader after a demand, whether it was answered or not. -/
def next (reader : Reader) (demand : Demand) : Reader :=
  match demand.read reader with
  | .ok _ after => after
  | .error _ stopped => stopped

/-- The reader after demands in order. -/
def after (reader : Reader) : List Demand → Reader
  | [] => reader
  | demand :: rest => (reader.next demand).after rest

/-- The reader that a demand counts from: the count starts anew with a header. -/
def begun (reader : Reader) (demand : Demand) : Reader :=
  if demand.isHeader then { reader with counted := 0 } else reader

variable {reader : Reader}

theorem next_of_ok {demand : Demand} {answer : demand.Answer} {after : Reader}
    (h : demand.read reader = .ok answer after) : reader.next demand = after := by
  rw [next, h]

theorem next_of_error {demand : Demand} {fault : ReadFault} {stopped : Reader}
    (h : demand.read reader = .error fault stopped) : reader.next demand = stopped := by
  rw [next, h]

/-- Making a record of the fields takes nothing and counts nothing. -/
theorem next_drawn (reader : Reader) (demand : Demand) :
    reader.next demand.drawn = reader.next demand := by
  cases demand with
  | header => rfl
  | struct => rfl
  | record α =>
      cases hstruct : Wire.struct reader with
      | error fault stopped =>
          have hrecord : (Demand.record α).read reader = .error fault stopped :=
            bind_of_error hstruct
          rw [next_of_error hrecord]
          exact next_of_error hstruct
      | ok fields middle =>
          have hrecord : (Demand.record α).read reader = _ := bind_of_ok hstruct
          have hmiddle : reader.next .struct = middle := next_of_ok hstruct
          change reader.next .struct = _
          rw [hmiddle, next, hrecord]
          cases (Record.ofFields fields : Except Malformed α) <;> rfl

/-- A demand spends what it was begun with, and what is refused for the limit is counted
beyond it. -/
theorem frugalOn_begun (reader : Reader) (demand : Demand) :
    FrugalOn (reader.begun demand) (fun _ => demand.drawn.read reader) := by
  cases demand with
  | header => exact frugal_parts.header { reader with counted := 0 }
  | struct => exact frugal_struct reader
  | record α => exact frugal_struct reader

theorem begun_spends (reader : Reader) (demand : Demand) :
    (reader.begun demand).Spends (reader.next demand) := by
  have hfrugal := frugalOn_begun reader demand
  rw [← next_drawn]
  cases hread : demand.drawn.read reader with
  | ok answer after =>
      rw [next_of_ok hread]
      exact hfrugal.of_ok hread
  | error fault stopped =>
      rw [next_of_error hread]
      exact (hfrugal.of_error hread).1

theorem over_of_overrun {demand : Demand} (h : demand.IsOverrun reader) :
    (reader.next demand).limit < (reader.next demand).counted := by
  obtain ⟨limit, stopped, hread⟩ := h
  have hfrugal := frugalOn_begun reader demand
  rw [← next_drawn, next_of_error hread]
  exact (hfrugal.of_error hread).2 limit rfl

/-- Once more is counted than the limit allows, a demand other than a header fails, and all
it does is to count on. -/
theorem next_of_over {demand : Demand} (hdemand : demand.isHeader = false)
    (hover : reader.limit < reader.counted) :
    (∃ fault, demand.read reader = .error fault (reader.next demand)) ∧
      reader.next demand = { reader with counted := reader.counted + 1 } := by
  have hstruct := struct_of_over hover
  cases demand with
  | header => cases hdemand
  | struct =>
      have hread : Demand.struct.read reader = .error _ _ := hstruct
      rw [next_of_error hread]
      exact ⟨⟨_, hread⟩, rfl⟩
  | record α =>
      have hrecord : (Demand.record α).read reader = .error _ _ := bind_of_error hstruct
      rw [next_of_error hrecord]
      exact ⟨⟨_, hrecord⟩, rfl⟩

theorem after_of_over {demands : List Demand}
    (hdemands : ∀ demand ∈ demands, demand.isHeader = false)
    (hover : reader.limit < reader.counted) :
    (reader.after demands).rest = reader.rest ∧
      (reader.after demands).limit < (reader.after demands).counted := by
  induction demands generalizing reader with
  | nil => exact ⟨rfl, hover⟩
  | cons demand rest ih =>
      rw [List.forall_mem_cons] at hdemands
      obtain ⟨-, hnext⟩ := next_of_over hdemands.1 hover
      have hstill : (reader.next demand).limit < (reader.next demand).counted := by
        rw [hnext]
        exact Nat.lt_succ_of_lt hover
      have hrest := ih hdemands.2 hstill
      rw [hnext] at hrest
      rw [after, hnext]
      exact hrest

/-- Demands without a header among them spend from one count. -/
theorem spends_after {demands : List Demand}
    (hdemands : ∀ demand ∈ demands, demand.isHeader = false) :
    reader.Spends (reader.after demands) := by
  induction demands generalizing reader with
  | nil => exact Spends.refl reader
  | cons demand rest ih =>
      rw [List.forall_mem_cons] at hdemands
      have hfirst := begun_spends reader demand
      rw [begun, hdemands.1] at hfirst
      exact hfirst.trans (ih hdemands.2)

theorem limit_after (reader : Reader) (demands : List Demand) :
    (reader.after demands).limit = reader.limit := by
  induction demands generalizing reader with
  | nil => rfl
  | cons demand rest ih =>
      have hbegun : (reader.begun demand).limit = reader.limit := by
        unfold begun
        split <;> rfl
      rw [after, ih, (begun_spends reader demand).limit, hbegun]

end Reader

/-- A stream is read by demands, whatever it holds, however it ends and whether or not the
demands are answered.  From any point on, and in particular from the start or from a
header on, no more bytes than the limit are taken before the next header.  Once
fixed-size data was refused for the limit, every demand fails and takes nothing before
the next header. -/
theorem taken_within_limit (bytes : Bytes) (ending : Ending) (limit : Nat)
    (earlier since : List Demand) (hsince : ∀ demand ∈ since.tail, demand.isHeader = false) :
    let reader := (Reader.ofBytes bytes ending limit).after earlier
    (∃ taken, reader.rest = taken ++ (reader.after since).rest ∧ taken.length ≤ limit) ∧
    ∀ (refused demand : Demand) (between : List Demand), refused.IsOverrun reader →
      (∀ other ∈ between, other.isHeader = false) → demand.isHeader = false →
      let later := (reader.next refused).after between
      later.rest = (reader.next refused).rest ∧
        (later.next demand).rest = later.rest ∧
        ∃ fault, demand.read later = .error fault (later.next demand) := by
  intro reader
  refine ⟨?_, fun refused demand between hrefused hbetween hdemand => ?_⟩
  · have hlimit : reader.limit = limit := Reader.limit_after _ earlier
    cases since with
    | nil => exact ⟨[], rfl, Nat.zero_le _⟩
    | cons first rest =>
        obtain ⟨taken, htaken, hroom, -⟩ :=
          ((reader.begun_spends first).trans (Reader.spends_after hsince)).taken
        have hbegun : (reader.begun first).rest = reader.rest ∧
            (reader.begun first).limit = reader.limit := by
          unfold Reader.begun
          split <;> exact ⟨rfl, rfl⟩
        rw [hbegun.1] at htaken
        exact ⟨taken, htaken, by omega⟩
  · intro later
    obtain ⟨hrest, hover⟩ :=
      Reader.after_of_over hbetween (Reader.over_of_overrun hrefused)
    obtain ⟨hfails, hnext⟩ := Reader.next_of_over hdemand hover
    exact ⟨hrest, by rw [hnext], hfails⟩

/-- Behind its header a struct is begun with four bytes left of the limit, so the number in
it is refused, and nothing of the number is taken later. -/
theorem taken_within_limit_refused_number :
    let start := Reader.ofBytes
      ([0, 0, 0, 1, 97, 1, 0, 0, 0, 7] ++ [8, 0, 1, 0, 0, 0, 5, 0]) .silent 14
    let refused := start.after [.header, .struct]
    refused.rest = [0, 0, 0, 5, 0] ∧
      (∃ taken, start.rest = taken ++ refused.rest ∧ taken.length ≤ 14) ∧
      (refused.next (.record CallFailure)).rest = refused.rest := by
  intro start refused
  have hrefused : refused.rest = [0, 0, 0, 5, 0] := by decide +kernel
  have hsince : ∀ demand ∈ [Demand.header, .struct].tail, demand.isHeader = false := by
    simp [Demand.isHeader]
  have hoverrun : Demand.struct.IsOverrun (start.after [.header]) :=
    ⟨14, ⟨[0, 0, 0, 5, 0], .silent, 17, 14⟩, rfl⟩
  have htaken := taken_within_limit start.rest .silent 14 [] [.header, .struct] hsince
  have hlater := taken_within_limit start.rest .silent 14 [.header] [] (by simp)
  exact ⟨hrefused, htaken.1, (hlater.2 .struct (.record CallFailure) [] hoverrun (by simp) rfl).2.1⟩

end BrowserBridge.Wire
