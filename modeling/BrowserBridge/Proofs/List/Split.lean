import Mathlib.Data.List.TakeDrop

/-!
Lists that are taken apart at a sign, and put together with one.
-/

namespace BrowserBridge

variable {α : Type}

theorem mem_intercalate {sign x : α} {parts : List (List α)}
    (h : x ∈ [sign].intercalate parts) : x = sign ∨ ∃ part ∈ parts, x ∈ part := by
  induction parts with
  | nil => exact absurd h List.not_mem_nil
  | cons part parts ih =>
      cases parts with
      | nil =>
          rw [List.intercalate_singleton] at h
          exact .inr ⟨part, List.mem_cons_self, h⟩
      | cons next parts =>
          rw [List.intercalate_cons_cons, List.append_assoc, List.mem_append,
            List.singleton_append, List.mem_cons] at h
          rcases h with h | h | h
          · exact .inr ⟨part, List.mem_cons_self, h⟩
          · exact .inl h
          · exact (ih h).imp_right fun ⟨part, hpart, hx⟩ =>
              ⟨part, List.mem_cons_of_mem _ hpart, hx⟩

variable {p : α → Bool}

theorem eq_false_of_mem_splitOnP {xs part : List α} {x : α} (hpart : part ∈ xs.splitOnP p)
    (hx : x ∈ part) : p x = false := by
  induction xs generalizing part with
  | nil =>
      rw [List.splitOnP_nil, List.mem_singleton] at hpart
      exact absurd (hpart ▸ hx) List.not_mem_nil
  | cons y xs ih =>
      obtain ⟨first, parts, hparts⟩ := List.exists_cons_of_ne_nil (List.splitOnP_ne_nil p xs)
      rw [List.splitOnP_cons_eq_if_modifyHead, hparts] at hpart
      rw [hparts] at ih
      by_cases hy : p y = true
      · rw [if_pos hy, List.mem_cons] at hpart
        rcases hpart with rfl | hpart
        · exact absurd hx List.not_mem_nil
        · exact ih hpart hx
      · rw [if_neg hy, List.modifyHead_cons, List.mem_cons] at hpart
        rcases hpart with rfl | hpart
        · rcases List.mem_cons.mp hx with rfl | hx
          · simpa using hy
          · exact ih List.mem_cons_self hx
        · exact ih (List.mem_cons_of_mem first hpart) hx

theorem splitOnP_intercalate {sign : α} (hsign : p sign = true) {parts : List (List α)}
    (hne : parts ≠ []) (h : ∀ part ∈ parts, ∀ x ∈ part, p x = false) :
    ([sign].intercalate parts).splitOnP p = parts := by
  induction parts with
  | nil => exact absurd rfl hne
  | cons part parts ih =>
      obtain ⟨hpart, hparts⟩ := List.forall_mem_cons.mp h
      cases parts with
      | nil =>
          rw [List.intercalate_singleton]
          exact List.splitOnP_eq_singleton hpart
      | cons next parts =>
          rw [List.intercalate_cons_cons, List.append_assoc, List.singleton_append,
            List.splitOnP_append_cons_of_forall_mem hpart sign hsign,
            ih (List.cons_ne_nil next parts) hparts]

theorem span_append {front : List α} (back : List α) (hfront : ∀ x ∈ front, p x = true)
    (hback : ∀ x ∈ back.head?, p x = false) : (front ++ back).span p = (front, back) := by
  rw [List.span_eq_takeWhile_dropWhile, List.takeWhile_append_of_pos hfront,
    List.dropWhile_append_of_pos hfront]
  cases back with
  | nil => simp
  | cons x back => simp [hback x rfl]

/-- The back of a list up to its last sign. -/
theorem reverse_takeWhile_reverse {front back : List α} {sign : α} (hsign : p sign = false)
    (hback : ∀ x ∈ back, p x = true) :
    ((front ++ sign :: back).reverse.takeWhile p).reverse = back := by
  have hreversed : ∀ x ∈ back.reverse, p x = true := fun x hx => hback x (List.mem_reverse.mp hx)
  rw [List.reverse_append, List.reverse_cons, List.append_assoc, List.singleton_append,
    List.takeWhile_append_of_pos hreversed, List.takeWhile_cons_of_neg (ne_true_of_eq_false hsign),
    List.append_nil, List.reverse_reverse]

end BrowserBridge
