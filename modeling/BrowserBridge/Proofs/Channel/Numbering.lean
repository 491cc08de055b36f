import BrowserBridge.Proofs.Channel.Mismatch
import BrowserBridge.Proofs.Channel.Permanence
import BrowserBridge.Proofs.Session.Step

/-!
How the calls of a channel are numbered.  Every call that is issued takes the next number and
sends its request under it, whatever the call comes to, and nothing else takes a number.  So
the numbers of a run count the issued calls, as far as 32 bits go.
-/

namespace BrowserBridge

namespace Channel

/-- The calls that an operation comes down to. -/
def callsOf (channel : Channel) : Operation → List Call
  | .call call => [call]
  | .quitIfInactive => Service.idleCalls channel

/-- The calls that operations in order come down to. -/
def callsIn (channel : Channel) : List Operation → List Call
  | [] => []
  | operation :: rest => channel.callsOf operation ++ (channel.operate operation).callsIn rest

/-- The numbers that calls in order take. -/
def numbers (channel : Channel) : List Call → List Int32
  | [] => []
  | call :: rest =>
    let numbers := (channel.next call).numbers rest
    if channel.issues call then (channel.next call).sequence :: numbers else numbers

/-- The call sends its request under a number, and apart from that it only reads. -/
def SendsAs (channel : Channel) (call : Call) (number : Int32) : Prop :=
  ∃ unread, (channel.next call).stream =
    { channel.stream.writing (call.request number) with unread := unread }

theorem after_eq_after (channel : Channel) (calls : List Call) :
    Service.after channel calls = channel.after calls := by
  induction calls generalizing channel with
  | nil => rfl
  | cons call rest ih =>
      have hnext : Service.next channel call = channel.next call := by
        unfold Service.next next
        cases Service.perform call channel <;> rfl
      change Service.after (Service.next channel call) rest = (channel.next call).after rest
      rw [hnext, ih]

theorem operate_eq_after_callsOf (channel : Channel) (operation : Operation) :
    channel.operate operation = channel.after (channel.callsOf operation) := by
  cases operation with
  | call call => rfl
  | quitIfInactive =>
      rw [callsOf, ← after_eq_after, operate]
      rcases Service.quitIfInactive_asks channel with ⟨quit, hquit⟩ | ⟨fault, hfault⟩
      · rw [hquit, finalOf]
      · rw [hfault, finalOf]

theorem run_eq_after_callsIn (operations : List Operation) (channel : Channel) :
    channel.run operations = channel.after (channel.callsIn operations) := by
  induction operations generalizing channel with
  | nil => rfl
  | cons operation rest ih =>
      rw [callsIn, after_append, ← operate_eq_after_callsOf, ← ih]
      rfl

/-- A call that is issued takes the next number, however it ends. -/
theorem next_of_issues {channel : Channel} {call : Call} (h : channel.issues call = true) :
    (channel.next call).sequence = channel.sequence + 1 ∧
      channel.SendsAs call (channel.sequence + 1) := by
  obtain ⟨method, hmethod, hclosed, hpoisoned⟩ := issues_eq_true h
  have hlast : ∃ unread poisoned, channel.next call =
      { channel with
        sequence := channel.sequence + 1
        stream := { channel.stream.writing (call.request (channel.sequence + 1)) with
          unread := unread }
        poisoned := poisoned } := by
    cases call with
    | shutService =>
        change ∃ unread poisoned, finalOf (orGone _ channel) = _
        rw [finalOf_orGone]
        exact finalOf_call .shutService NoArguments.mk hclosed hpoisoned
    | close => cases hmethod
    | _ => exact finalOf_call _ _ hclosed hpoisoned
  obtain ⟨unread, poisoned, hlast⟩ := hlast
  rw [SendsAs, hlast]
  exact ⟨rfl, unread, rfl⟩

/-- So many numbers in order, as far as 32 bits go. -/
def countFrom (first count : Nat) : List Int32 := (List.range' first count).map Int32.ofNat

theorem countFrom_succ (first count : Nat) :
    countFrom first (count + 1) = Int32.ofNat first :: countFrom (first + 1) count := by
  rw [countFrom, List.range'_succ]
  rfl

/-- A part of such numbers is of the same form. -/
theorem countFrom_window (first count skipped size : Nat) :
    ((countFrom first count).drop skipped).take size =
      countFrom (first + skipped) (min size (count - skipped)) := by
  apply List.ext_getElem
  · simp [countFrom]
  · intro index hleft hright
    simp [countFrom, Nat.add_assoc]

/-- Numbers do not turn negative before 31 bits are used up. -/
theorem increasing_countFrom {first count : Nat} (h : first + count ≤ 0x80000000) :
    (countFrom first count).Pairwise (· < ·) := by
  rw [countFrom, List.pairwise_map]
  refine (List.pairwise_lt_range' 1).imp_of_mem fun {low high} hlow hhigh hlt => ?_
  rw [List.mem_range'_1] at hlow hhigh
  rw [Int32.lt_iff_toInt_lt, Int32.toInt_ofNat_of_lt (by omega), Int32.toInt_ofNat_of_lt (by omega)]
  omega

/-- Numbers do not come again before 32 bits are used up. -/
theorem nodup_countFrom {first count : Nat} (h : count ≤ 0x100000000) :
    (countFrom first count).Nodup := by
  rw [countFrom, List.Nodup, List.pairwise_map]
  refine (List.pairwise_lt_range' 1).imp_of_mem fun {low high} hlow hhigh hlt hsame => ?_
  rw [List.mem_range'_1] at hlow hhigh
  have hbits : low % 0x100000000 = high % 0x100000000 := by
    simpa using congrArg (fun number : Int32 => number.toBitVec.toNat) hsame
  omega

/-- Calls in order take the numbers that follow on the last one. -/
theorem numbers_eq (calls : List Call) {channel : Channel} {last : Nat}
    (h : channel.sequence = Int32.ofNat last) :
    channel.numbers calls = countFrom (last + 1) (channel.issued calls) ∧
      (channel.after calls).sequence = Int32.ofNat (last + channel.issued calls) := by
  induction calls generalizing channel last with
  | nil => exact ⟨rfl, h⟩
  | cons call rest ih =>
      cases hissues : channel.issues call with
      | false =>
          have hnext : (channel.next call).sequence = Int32.ofNat last := by
            obtain ⟨closed, shutdowns, hsame⟩ := next_of_not_issues hissues
            rwa [hsame]
          rw [numbers, issued, after, hissues, Bool.toNat_false, Nat.zero_add]
          exact ih hnext
      | true =>
          have hnext : (channel.next call).sequence = Int32.ofNat (last + 1) := by
            rw [(next_of_issues hissues).1, h, Int32.ofNat_add]
            rfl
          obtain ⟨hnumbers, hlast⟩ := ih hnext
          rw [numbers, issued, after, hissues, if_pos rfl, hnumbers, hlast, hnext,
            Bool.toNat_true, ← Nat.add_assoc, Nat.add_comm 1, countFrom_succ]
          exact ⟨rfl, rfl⟩

end Channel

end BrowserBridge
