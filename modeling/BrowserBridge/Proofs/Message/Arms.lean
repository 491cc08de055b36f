import BrowserBridge.Proofs.Message.Layout

/-!
Arms of a value.  A struct that carries a value holds at most one arm of each kind, in any
order and with unknown fields in between.  Of several arms the decoder keeps the one with
the greatest id, which is the last one on the wire only if that one stands last.
-/

namespace BrowserBridge

open Wire

/-- The id of the field that values of a kind stand in. -/
def Value.armId : Value → Int16
  | text _ => 1
  | flag _ => 2
  | texts _ => 3

/-- The content of a field stands for a value; the texts in it are well-formed. -/
inductive Carries : Tree → Value → Prop where
  | text {bytes : Bytes} {text : String} (htext : Text.decode bytes = .ok text) :
      Carries (.binary bytes) (.text text)
  | flag (flag : Bool) : Carries (.bool flag) (.flag flag)
  | texts {elements : List Tree} {texts : List String}
      (htexts : Tree.textsOf elements = .ok texts) :
      Carries (.set elements) (.ofTexts texts)

/-- The values of the arms among the fields, in wire order.  No kind has two arms, and
every other field has an unknown id. -/
inductive Arms : Fields → List Value → Prop where
  | nil : Arms [] []
  | arm {tree : Tree} {value : Value} {fields : Fields} {values : List Value}
      (hcarries : Carries tree value) (hfresh : ∀ other ∈ values, other.armId ≠ value.armId)
      (hrest : Arms fields values) : Arms ((value.armId, tree) :: fields) (value :: values)
  | unknown {id : Int16} {tree : Tree} {fields : Fields} {values : List Value}
      (hid : id ≠ 1 ∧ id ≠ 2 ∧ id ≠ 3) (hrest : Arms fields values) :
      Arms ((id, tree) :: fields) values

namespace Arms

variable {fields : Fields} {values : List Value}

/-- The arm with an id. -/
def armOf (values : List Value) (id : Int16) : Option Value :=
  values.find? fun value => value.armId == id

theorem armOf_cons (value : Value) (values : List Value) (id : Int16) :
    armOf (value :: values) id = if value.armId = id then some value else armOf values id := by
  by_cases h : value.armId = id <;> simp [armOf, h]

theorem armOf_eq_none_iff {id : Int16} :
    armOf values id = none ↔ ∀ value ∈ values, value.armId ≠ id := by
  simp [armOf]

theorem armOf_eq_some {id : Int16} {value : Value} (h : armOf values id = some value) :
    value ∈ values ∧ value.armId = id :=
  ⟨List.mem_of_find?_eq_some h, by simpa using List.find?_some h⟩

/-- What is found under the id of an arm is that arm. -/
theorem last?_eq (h : Arms fields values) {id : Int16} (hid : id = 1 ∨ id = 2 ∨ id = 3) :
    (Fields.last? fields id = none ∧ armOf values id = none) ∨
      ∃ tree value, Fields.last? fields id = some tree ∧ armOf values id = some value ∧
        Carries tree value := by
  induction h with
  | nil => exact .inl ⟨rfl, rfl⟩
  | @arm tree value fields values hcarries hfresh hrest ih =>
      rw [Fields.last?_cons, armOf_cons]
      by_cases harm : value.armId = id
      · subst harm
        have hnone : armOf values value.armId = none := armOf_eq_none_iff.mpr hfresh
        rcases ih with ⟨hlast, -⟩ | ⟨later, other, -, hother, -⟩
        · rw [hlast, if_pos rfl, if_pos rfl]
          exact .inr ⟨tree, value, rfl, rfl, hcarries⟩
        · rw [hnone] at hother
          cases hother
      · rw [if_neg harm, if_neg harm, Option.or_none]
        exact ih
  | @unknown key tree fields values hunknown hrest ih =>
      have hkey : key ≠ id := by
        rintro rfl
        rcases hid with rfl | rfl | rfl
        · exact hunknown.1 rfl
        · exact hunknown.2.1 rfl
        · exact hunknown.2.2 rfl
      rw [Fields.last?_cons, if_neg hkey, Option.or_none]
      exact ih

theorem text?_eq (h : Arms fields values) :
    ∃ text, fields.text? 1 = .ok text ∧ text.map Value.text = armOf values 1 := by
  rcases h.last?_eq (.inl rfl) with ⟨hlast, harm⟩ | ⟨tree, value, hlast, harm, hcarries⟩
  · exact ⟨none, by rw [Fields.text?, hlast], harm.symm⟩
  · have hid := (armOf_eq_some harm).2
    cases hcarries with
    | @text bytes text htext =>
        refine ⟨some text, ?_, harm.symm⟩
        rw [Fields.text?, hlast]
        simp only [Tree.text?, htext]
    | flag => cases hid
    | texts => cases hid

theorem bool?_eq (h : Arms fields values) :
    (fields.bool? 2).map Value.flag = armOf values 2 := by
  rcases h.last?_eq (.inr (.inl rfl)) with ⟨hlast, harm⟩ | ⟨tree, value, hlast, harm, hcarries⟩
  · rw [Fields.bool?, hlast, harm]
    rfl
  · have hid := (armOf_eq_some harm).2
    cases hcarries with
    | text => cases hid
    | flag flag =>
        rw [Fields.bool?, hlast, harm]
        rfl
    | texts => cases hid

theorem textSet?_eq (h : Arms fields values) :
    ∃ texts, fields.textSet? 3 = .ok texts ∧ texts.map Value.ofTexts = armOf values 3 := by
  rcases h.last?_eq (.inr (.inr rfl)) with ⟨hlast, harm⟩ | ⟨tree, value, hlast, harm, hcarries⟩
  · exact ⟨none, by rw [Fields.textSet?, hlast], harm.symm⟩
  · have hid := (armOf_eq_some harm).2
    cases hcarries with
    | text => cases hid
    | flag => cases hid
    | @texts elements texts htexts =>
        refine ⟨some texts, ?_, harm.symm⟩
        rw [Fields.textSet?, hlast]
        change some <$> Tree.textsOf elements = _
        rw [htexts]
        rfl

/-- The decoder goes by the ids of the arms and not by their order. -/
theorem ofFields?_eq (h : Arms fields values) :
    Value.ofFields? fields = .ok (armOf values 3 <|> armOf values 2 <|> armOf values 1) := by
  obtain ⟨text, htext, hfirst⟩ := h.text?_eq
  obtain ⟨texts, htexts, hthird⟩ := h.textSet?_eq
  rw [← hfirst, ← h.bool?_eq, ← hthird]
  simp only [Value.ofFields?]
  rw [htext, htexts]
  rfl

theorem mem_iff (h : Arms fields values) {value : Value} :
    value ∈ values ↔ armOf values value.armId = some value := by
  refine ⟨fun hmem => ?_, fun harm => (armOf_eq_some harm).1⟩
  induction h with
  | nil => cases hmem
  | @arm tree head fields values hcarries hfresh hrest ih =>
      rw [armOf_cons]
      rcases List.mem_cons.mp hmem with rfl | htail
      · rw [if_pos rfl]
      · rw [if_neg (hfresh value htail).symm]
        exact ih htail
  | unknown hid hrest ih => exact ih hmem

theorem exists_greatest (hsome : values ≠ []) :
    ∃ value ∈ values, ∀ other ∈ values, other.armId ≤ value.armId := by
  induction values with
  | nil => exact absurd rfl hsome
  | cons head tail ih =>
      by_cases htail : tail = []
      · subst htail
        exact ⟨head, List.mem_singleton_self _, by simp⟩
      · obtain ⟨greatest, hmem, hall⟩ := ih htail
        rcases Int16.le_total head.armId greatest.armId with hless | hmore
        · exact ⟨greatest, List.mem_cons_of_mem _ hmem, List.forall_mem_cons.mpr ⟨hless, hall⟩⟩
        · refine ⟨head, List.mem_cons_self, List.forall_mem_cons.mpr ⟨Int16.le_refl _, ?_⟩⟩
          exact fun other hother => Int16.le_trans (hall other hother) hmore

/-- The arm with the greatest id is kept. -/
theorem kept (h : Arms fields values) {value : Value} (hmem : value ∈ values)
    (hgreatest : ∀ other ∈ values, other.armId ≤ value.armId) :
    Value.ofFields? fields = .ok (some value) := by
  have hfound : armOf values value.armId = some value := h.mem_iff.mp hmem
  have hnone : ∀ id, ¬ id ≤ value.armId → armOf values id = none := by
    intro id hgreater
    refine armOf_eq_none_iff.mpr fun other hother => ?_
    rintro rfl
    exact hgreater (hgreatest other hother)
  rw [h.ofFields?_eq]
  cases value with
  | text text =>
      simp only [Value.armId] at hfound hnone
      rw [hnone 3 (by decide), hnone 2 (by decide), hfound]
      rfl
  | flag flag =>
      simp only [Value.armId] at hfound hnone
      rw [hnone 3 (by decide), hfound]
      rfl
  | texts texts =>
      simp only [Value.armId] at hfound
      rw [hfound]
      rfl

end Arms

/-- Precisely when the last of several arms is kept.  Without an arm there is no value.
Otherwise the value is the arm with the greatest id, wherever it stands on the wire, so
that the last arm is kept only if it is that one. -/
theorem last_arm_kept_iff {fields : Fields} {values : List Value} (h : Arms fields values) :
    (values = [] → Value.ofFields? fields = .ok none) ∧
    (values ≠ [] → ∃ value ∈ values, (∀ other ∈ values, other.armId ≤ value.armId) ∧
      Value.ofFields? fields = .ok (some value)) ∧
    ∀ last, values.getLast? = some last →
      (Value.ofFields? fields = .ok (some last) ↔
        ∀ other ∈ values, other.armId ≤ last.armId) := by
  refine ⟨?_, fun hsome => ?_, fun last hlast => ⟨fun hdecoded => ?_, fun hgreatest => ?_⟩⟩
  · rintro rfl
    rw [h.ofFields?_eq]
    rfl
  · obtain ⟨value, hmem, hgreatest⟩ := Arms.exists_greatest hsome
    exact ⟨value, hmem, hgreatest, h.kept hmem hgreatest⟩
  · have hsome : values ≠ [] := List.ne_nil_of_mem (List.mem_of_getLast? hlast)
    obtain ⟨value, hmem, hgreatest⟩ := Arms.exists_greatest hsome
    rw [h.kept hmem hgreatest] at hdecoded
    cases hdecoded
    exact hgreatest
  · exact h.kept (List.mem_of_getLast? hlast) hgreatest

/-- Arms in the order of their ids around an unknown field: the set stands last and is
kept, without the text that it holds twice. -/
theorem last_arm_kept_texts :
    Value.ofFields? [(1, .ofText "a"), (7, .i32 0), (3, .set [.ofText "b", .ofText "b"])] =
      .ok (some (.texts ["b"])) := by
  have harms : Arms [(1, .ofText "a"), (7, .i32 0), (3, .set [.ofText "b", .ofText "b"])]
      [.text "a", .ofTexts ["b", "b"]] :=
    .arm (.text (Text.decode_encode "a")) (by decide)
      (.unknown (by decide) (.arm (.texts (Tree.textsOf_map_ofText ["b", "b"])) (by simp) .nil))
  exact ((last_arm_kept_iff harms).2.2 _ rfl).mpr (by decide)

/-- So the last arm is not always kept: a text after a set is passed over. -/
theorem last_arm_not_always_kept :
    ¬ ∀ (fields : Fields) (values : List Value) (last : Value), Arms fields values →
      values.getLast? = some last → Value.ofFields? fields = .ok (some last) := by
  intro h
  have harms : Arms [(3, .set [.ofText "a"]), (1, .ofText "b")] [.ofTexts ["a"], .text "b"] :=
    .arm (.texts (Tree.textsOf_map_ofText ["a"])) (by decide)
      (.arm (.text (Text.decode_encode "b")) (by simp) .nil)
  have hkept := h _ _ _ harms rfl
  cases hkept

end BrowserBridge
