import BrowserBridge.Message.Response
import BrowserBridge.Proofs.List.Firsts

/-!
The set that texts make.  Of equal texts the first stays, and what stays keeps its order: the set
holds the texts at those places before which they do not stand.
-/

namespace BrowserBridge.Value

/-- The texts at the places before which they do not stand, in order. -/
def firstSeen (texts : List String) : List String :=
  (texts.zipIdx.filter fun place => place.1 ∉ texts.take place.2).map Prod.fst

theorem eraseDups_eq_firstSeen (texts : List String) : texts.eraseDups = firstSeen texts := by
  have hplaces : Firsts.firsts id texts = _ := Firsts.firsts_eq_filter_zipIdx texts
  simp only [List.map_id, id] at hplaces
  exact hplaces

/-- A text that stands before is not added again. -/
theorem firstSeen_append (texts more : List String) :
    firstSeen (texts ++ more) = firstSeen texts ++ (firstSeen more).filter (· ∉ texts) := by
  have happend : Firsts.firsts id (texts ++ more) = _ := Firsts.firsts_append texts more
  simp only [List.map_id, id, ← Firsts.eraseDups_eq_firsts, List.mem_eraseDups] at happend
  rwa [eraseDups_eq_firstSeen, eraseDups_eq_firstSeen, eraseDups_eq_firstSeen] at happend

/-- The set of some texts holds those that stand at a place for the first time, in order.  None of
them stands twice, none is lost and none added, and making a set of them changes nothing.  Of texts
behind others the set gains the ones that are new. -/
theorem ofTexts_keeps_first_seen (values more : List String) :
    let kept := firstSeen values
    ofTexts values = texts kept ∧ kept.Nodup ∧ (∀ text, text ∈ kept ↔ text ∈ values) ∧
      kept.Sublist values ∧ ofTexts kept = texts kept ∧
      ofTexts (values ++ more) = texts (kept ++ (firstSeen more).filter (· ∉ values)) := by
  intro kept
  have hkept : values.eraseDups = kept := eraseDups_eq_firstSeen values
  have hnodup : kept.Nodup := hkept ▸ Firsts.nodup_eraseDups values
  have hsublist : values.eraseDups.Sublist values := Firsts.firsts_sublist id values
  refine ⟨congrArg texts hkept, hnodup, fun text => ?_, hkept ▸ hsublist, ?_, ?_⟩
  · rw [← hkept, List.mem_eraseDups]
  · rw [ofTexts, Firsts.eraseDups_of_nodup hnodup]
  · rw [ofTexts, eraseDups_eq_firstSeen, firstSeen_append]

example : ofTexts ["b", "a", "b", "c", "a"] = texts ["b", "a", "c"] := by decide

end BrowserBridge.Value
