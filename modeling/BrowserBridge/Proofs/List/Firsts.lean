import Mathlib.Data.List.Basic
import Mathlib.Data.List.Induction

/-!
Lists in which of several elements with one key the first stays.  The list grows at its end: an
element is added if its key is new, and nothing else ever changes.  So each key stands once, in
the order in which the keys first appear.
-/

namespace BrowserBridge

/-- `keys` are the keys that some of the rows have, each once and in the order in which they first
appear: of two keys there are first rows that have the earlier and not the later one. -/
structure FirstAppearances {β κ : Type} (Has : β → κ → Prop) (rows : List β) (keys : List κ) :
    Prop where
  mem_iff : ∀ k, k ∈ keys ↔ ∃ row ∈ rows, Has row k
  nodup : keys.Nodup
  ordered : keys.Pairwise fun earlier later => ∃ before after, rows = before ++ after ∧
    (∃ row ∈ before, Has row earlier) ∧ ∀ row ∈ before, ¬ Has row later

namespace Firsts

variable {α β κ : Type}

theorem eraseDupsBy_loop_concat (same : α → α → Bool) (elements : List α) (last : α)
    (seen : List α) :
    List.eraseDupsBy.loop same (elements ++ [last]) seen =
      if (List.eraseDupsBy.loop same elements seen).any (same last)
      then List.eraseDupsBy.loop same elements seen
      else List.eraseDupsBy.loop same elements seen ++ [last] := by
  induction elements generalizing seen with
  | nil =>
      rw [List.nil_append, List.eraseDupsBy.loop, List.eraseDupsBy.loop, List.any_reverse]
      cases seen.any (same last) <;> simp [List.eraseDupsBy.loop]
  | cons head rest ih =>
      rw [List.cons_append, List.eraseDupsBy.loop, List.eraseDupsBy.loop]
      cases seen.any (same head) with
      | true => exact ih seen
      | false => exact ih (head :: seen)

variable [DecidableEq κ] (key : α → κ)

/-- The first element with each key. -/
def firsts (elements : List α) : List α := elements.eraseDupsBy fun a b => key a == key b

theorem firsts_nil : firsts key [] = [] := rfl

variable {key}

private theorem firsts_concat (elements : List α) (last : α) :
    firsts key (elements ++ [last]) =
      if key last ∈ (firsts key elements).map key then firsts key elements
      else firsts key elements ++ [last] := by
  have hany : ((firsts key elements).any fun other => key last == key other) = true ↔
      key last ∈ (firsts key elements).map key := by
    simp only [List.any_eq_true, List.mem_map, beq_iff_eq, eq_comm (a := key last)]
  rw [firsts, List.eraseDupsBy, eraseDupsBy_loop_concat]
  exact if_congr hany rfl rfl

/-- No key is lost. -/
theorem mem_map_firsts {elements : List α} {k : κ} :
    k ∈ (firsts key elements).map key ↔ k ∈ elements.map key := by
  induction elements using List.reverseRecOn with
  | nil => rfl
  | append_singleton elements last ih =>
      rw [firsts_concat, List.map_append, List.mem_append, ← ih]
      split
      · next hold =>
        have hlast : k ∈ [last].map key → k ∈ (firsts key elements).map key := by
          intro hk
          obtain rfl : k = key last := List.mem_singleton.mp hk
          exact hold
        exact ⟨Or.inl, fun h => h.elim id hlast⟩
      · rw [List.map_append, List.mem_append]

section Concat

variable {elements : List α} {last : α}

theorem firsts_concat_of_mem (hold : key last ∈ elements.map key) :
    firsts key (elements ++ [last]) = firsts key elements := by
  rw [firsts_concat, if_pos (mem_map_firsts.mpr hold)]

theorem firsts_concat_of_notMem (hnew : key last ∉ elements.map key) :
    firsts key (elements ++ [last]) = firsts key elements ++ [last] := by
  rw [firsts_concat, if_neg fun h => hnew (mem_map_firsts.mp h)]

end Concat

/-- Behind other elements only those with new keys stay. -/
theorem firsts_append (elements more : List α) :
    firsts key (elements ++ more) = firsts key elements ++
      (firsts key more).filter fun other => key other ∉ (firsts key elements).map key := by
  induction more using List.reverseRecOn with
  | nil => simp [firsts_nil]
  | append_singleton more last ih =>
      rw [← List.append_assoc]
      by_cases hmore : key last ∈ more.map key
      · have hall : key last ∈ (elements ++ more).map key := by
          rw [List.map_append]
          exact List.mem_append_right _ hmore
        rw [firsts_concat_of_mem hall, firsts_concat_of_mem hmore, ih]
      · rw [firsts_concat_of_notMem hmore, List.filter_append]
        by_cases helements : key last ∈ elements.map key
        · have hall : key last ∈ (elements ++ more).map key := by
            rw [List.map_append]
            exact List.mem_append_left _ helements
          have hdropped := mem_map_firsts.mpr helements
          rw [firsts_concat_of_mem hall, ih, List.filter_cons_of_neg (by simpa using hdropped),
            List.filter_nil, List.append_nil]
        · have hall : key last ∉ (elements ++ more).map key := by
            rw [List.map_append, List.mem_append]
            exact fun h => h.elim helements hmore
          have hkept : key last ∉ (firsts key elements).map key := fun h =>
            helements (mem_map_firsts.mp h)
          rw [firsts_concat_of_notMem hall, ih, List.filter_cons_of_pos (by simpa using hkept),
            List.filter_nil, List.append_assoc]

/-- What stays is what has no element with its key before it. -/
theorem mem_firsts_iff {elements : List α} {element : α} :
    element ∈ firsts key elements ↔
      ∃ before after, elements = before ++ element :: after ∧ key element ∉ before.map key := by
  constructor
  · intro hmem
    induction elements using List.reverseRecOn with
    | nil => exact absurd hmem List.not_mem_nil
    | append_singleton elements last ih =>
        have hearlier : element ∈ firsts key elements → ∃ before after,
            elements ++ [last] = before ++ element :: after ∧ key element ∉ before.map key := by
          intro hkept
          obtain ⟨before, after, rfl, hnew⟩ := ih hkept
          exact ⟨before, after ++ [last], by simp, hnew⟩
        by_cases hold : key last ∈ elements.map key
        · rw [firsts_concat_of_mem hold] at hmem
          exact hearlier hmem
        · rw [firsts_concat_of_notMem hold, List.mem_append, List.mem_singleton] at hmem
          rcases hmem with hkept | rfl
          · exact hearlier hkept
          · exact ⟨elements, [], rfl, hold⟩
  · rintro ⟨before, after, rfl, hnew⟩
    rw [List.append_cons, firsts_append, firsts_concat_of_notMem hnew]
    exact List.mem_append_left _ (List.mem_append_right _ List.mem_cons_self)

variable (key) in
/-- What stays is in the order in which the keys first appear. -/
theorem pairwise_firsts (elements : List α) :
    (firsts key elements).Pairwise fun earlier later => ∃ before after,
      elements = before ++ after ∧ key earlier ∈ before.map key ∧ key later ∉ before.map key := by
  induction elements using List.reverseRecOn with
  | nil => exact .nil
  | append_singleton elements last ih =>
      have hkept : (firsts key elements).Pairwise fun earlier later => ∃ before after,
          elements ++ [last] = before ++ after ∧ key earlier ∈ before.map key ∧
            key later ∉ before.map key := by
        refine ih.imp ?_
        rintro earlier later ⟨before, after, rfl, hkeys⟩
        exact ⟨before, after ++ [last], List.append_assoc _ _ _, hkeys⟩
      by_cases hold : key last ∈ elements.map key
      · rwa [firsts_concat_of_mem hold]
      · rw [firsts_concat_of_notMem hold, List.pairwise_append]
        refine ⟨hkept, List.pairwise_singleton _ _, fun earlier hearlier later hlater => ?_⟩
        obtain rfl := List.mem_singleton.mp hlater
        exact ⟨elements, [later], rfl, mem_map_firsts.mp (List.mem_map_of_mem hearlier), hold⟩

variable (key) in
/-- No key stands twice. -/
theorem nodup_map_firsts (elements : List α) : ((firsts key elements).map key).Nodup := by
  refine List.pairwise_map.mpr ((pairwise_firsts key elements).imp ?_)
  rintro earlier later ⟨before, after, -, hearlier, hlater⟩ hsame
  exact hlater (hsame ▸ hearlier)

/-- Where no key stands twice, all elements stay. -/
theorem firsts_of_nodup {elements : List α} (h : (elements.map key).Nodup) :
    firsts key elements = elements := by
  induction elements using List.reverseRecOn with
  | nil => rfl
  | append_singleton elements last ih =>
      obtain ⟨helements, -, hapart⟩ := List.nodup_append.mp (List.map_append ▸ h)
      have hnew : key last ∉ elements.map key := fun hold =>
        hapart (key last) hold (key last) List.mem_cons_self rfl
      rw [firsts_concat_of_notMem hnew, ih helements]

/-- What stays is what stands at a place before which its key does not stand. -/
theorem firsts_eq_filter_zipIdx (elements : List α) :
    firsts key elements = (elements.zipIdx.filter fun place =>
      key place.1 ∉ (elements.take place.2).map key).map Prod.fst := by
  induction elements using List.reverseRecOn with
  | nil => rfl
  | append_singleton elements last ih =>
      -- A place among the earlier elements has the same elements before it.
      have hearlier : (elements.zipIdx.filter fun place =>
            key place.1 ∉ ((elements ++ [last]).take place.2).map key) =
          elements.zipIdx.filter fun place => key place.1 ∉ (elements.take place.2).map key := by
        refine List.filter_congr fun place hplace => ?_
        have hless : place.2 < elements.length := by
          simpa using (List.mem_zipIdx hplace).2.1
        rw [List.take_append_of_le_length (Nat.le_of_lt hless)]
      rw [List.zipIdx_append, List.filter_append, List.map_append, hearlier, ← ih]
      by_cases hold : key last ∈ elements.map key
      · rw [firsts_concat_of_mem hold]
        simp [hold]
      · rw [firsts_concat_of_notMem hold]
        simp [hold]

variable (key) in
theorem firsts_sublist (elements : List α) : (firsts key elements).Sublist elements := by
  rw [firsts_eq_filter_zipIdx]
  simpa using (List.filter_sublist (l := elements.zipIdx)).map Prod.fst

section EraseDups

/-- Without a key the elements themselves tell each other apart. -/
theorem eraseDups_eq_firsts (elements : List κ) : elements.eraseDups = firsts id elements := rfl

theorem nodup_eraseDups (elements : List κ) : elements.eraseDups.Nodup := by
  rw [eraseDups_eq_firsts, ← List.map_id (firsts id elements)]
  exact nodup_map_firsts id elements

theorem eraseDups_of_nodup {elements : List κ} (h : elements.Nodup) :
    elements.eraseDups = elements := by
  rw [← List.map_id elements] at h
  rw [eraseDups_eq_firsts, firsts_of_nodup h]

end EraseDups

section Rows

variable {give : β → Option α} {Has : β → κ → Prop}
  (hHas : ∀ row k, Has row k ↔ ∃ element, give row = some element ∧ key element = k)

include hHas

omit [DecidableEq κ] in
theorem mem_map_filterMap_iff {rows : List β} {k : κ} :
    k ∈ (rows.filterMap give).map key ↔ ∃ row ∈ rows, Has row k := by
  simp only [hHas, List.mem_map, List.mem_filterMap]
  constructor
  · rintro ⟨element, ⟨row, hrow, hgive⟩, hkey⟩
    exact ⟨row, hrow, element, hgive, hkey⟩
  · rintro ⟨row, hrow, element, hgive, hkey⟩
    exact ⟨element, ⟨row, hrow, hgive⟩, hkey⟩

/-- What stays of what the rows give comes from the first row with its key. -/
theorem mem_firsts_filterMap_iff {rows : List β} {element : α} :
    element ∈ firsts key (rows.filterMap give) ↔ ∃ before row after,
      rows = before ++ row :: after ∧ give row = some element ∧
        ∀ earlier ∈ before, ¬ Has earlier (key element) := by
  rw [mem_firsts_iff]
  constructor
  · rintro ⟨before, after, hrows, hnew⟩
    obtain ⟨front, back, rfl, rfl, hback⟩ := List.filterMap_eq_append_iff.mp hrows
    obtain ⟨silent, row, rest, rfl, hsilent, hgive, -⟩ := List.filterMap_eq_cons_iff.mp hback
    refine ⟨front ++ silent, row, rest, by simp, hgive, fun earlier hearlier hhas => ?_⟩
    rcases List.mem_append.mp hearlier with hfront | hback
    · exact hnew ((mem_map_filterMap_iff hHas).mpr ⟨earlier, hfront, hhas⟩)
    · obtain ⟨other, hother, -⟩ := (hHas _ _).mp hhas
      rw [hsilent earlier hback] at hother
      cases hother
  · rintro ⟨before, row, after, rfl, hgive, hnew⟩
    refine ⟨before.filterMap give, after.filterMap give, ?_, fun hmem => ?_⟩
    · rw [List.filterMap_append, List.filterMap_cons_some hgive]
    · obtain ⟨earlier, hearlier, hhas⟩ := (mem_map_filterMap_iff hHas).mp hmem
      exact hnew earlier hearlier hhas

/-- The keys of what the rows give are in the order of their first appearance. -/
theorem firstAppearances (rows : List β) :
    FirstAppearances Has rows ((firsts key (rows.filterMap give)).map key) := by
  have hordered := pairwise_firsts key (rows.filterMap give)
  refine ⟨fun k => mem_map_firsts.trans (mem_map_filterMap_iff hHas), nodup_map_firsts key _,
    List.pairwise_map.mpr (hordered.imp ?_)⟩
  rintro earlier later ⟨before, after, hrows, hearlier, hlater⟩
  obtain ⟨front, back, rfl, rfl, rfl⟩ := List.filterMap_eq_append_iff.mp hrows
  refine ⟨front, back, rfl, (mem_map_filterMap_iff hHas).mp hearlier, fun row hrow hhas => ?_⟩
  exact hlater ((mem_map_filterMap_iff hHas).mpr ⟨row, hrow, hhas⟩)

end Rows

end Firsts

end BrowserBridge
