import BrowserBridge.Proofs.Json.Scalar

/-!
What is written of a JSON value is read as that value, except that the members of its objects
are put in order.  Numbers other than integers of 64 bits are left out, because reading one may
be off in its last bit.
-/

namespace BrowserBridge.Json

mutual

/-- All numbers of a value are integers of 64 bits, with or without a sign. -/
def Whole : Json → Prop
  | integer n => -0x8000000000000000 ≤ n ∧ n < 0x10000000000000000
  | float _ => False
  | array elements => WholeElements elements
  | object members => WholeMembers members
  | _ => True

/-- All numbers of elements are integers. -/
def WholeElements : List Json → Prop
  | [] => True
  | element :: rest => Whole element ∧ WholeElements rest

/-- All numbers of members are integers. -/
def WholeMembers : List (String × Json) → Prop
  | [] => True
  | (_, value) :: rest => Whole value ∧ WholeMembers rest

end

mutual

/-- A value with the members of its objects put in order. -/
def settled : Json → Json
  | array elements => array (settledElements elements)
  | object members => ofMembers (settledMembers members)
  | json => json

/-- Elements with the members of their objects put in order. -/
def settledElements : List Json → List Json
  | [] => []
  | element :: rest => settled element :: settledElements rest

/-- Members, in the order they have, with the members of their values put in order. -/
def settledMembers : List (String × Json) → List (String × Json)
  | [] => []
  | (key, value) :: rest => (key, settled value) :: settledMembers rest

end

section Steps

variable {fuel : Nat} {text rest : List Char}

theorem elements?_last {element : Json} (hread : value? fuel text = some (element, ']' :: rest))
    (reversed : List Json) :
    elements? (fuel + 1) text reversed = some (reversed.reverse ++ [element], rest) := by
  simp [elements?, hread, skipBlanks]

theorem elements?_next {element : Json} (hread : value? fuel text = some (element, ',' :: rest))
    (reversed : List Json) :
    elements? (fuel + 1) text reversed = elements? fuel rest (element :: reversed) := by
  simp [elements?, hread, skipBlanks]

theorem members?_last {key : String} {value : Json} (hfuel : key.toList.length < fuel)
    (hread : value? fuel text = some (value, '\x7d' :: rest)) (reversed : List (String × Json)) :
    members? (fuel + 1) ((stringText key).toList ++ ':' :: text) reversed =
      some (reversed.reverse ++ [(key, value)], rest) := by
  simp [members?, toList_stringText, string?_stringText hfuel, hread, skipBlanks]

theorem members?_next {key : String} {value : Json} (hfuel : key.toList.length < fuel)
    (hread : value? fuel text = some (value, ',' :: rest)) (reversed : List (String × Json)) :
    members? (fuel + 1) ((stringText key).toList ++ ':' :: text) reversed =
      members? fuel rest ((key, value) :: reversed) := by
  simp [members?, toList_stringText, string?_stringText hfuel, hread, skipBlanks]

end Steps

section Beginnings

/-- What no written value begins with: a blank, which is skipped, and the end of an array. -/
def foreign : List Char := [' ', '\n', '\r', '\t', ']']

theorem skipBlanks_of_notMem {c : Char} (hc : c ∉ foreign) (text : List Char) :
    skipBlanks (c :: text) = c :: text :=
  List.dropWhile_cons_of_neg (by
    simp only [foreign, List.mem_cons, List.not_mem_nil, or_false, not_or] at hc
    simp [hc])

theorem notMem_of_isDigit {c : Char} (hc : c.isDigit = true ∨ c = '-') :
    c ∉ foreign ∧ c ∉ ['n', 't', 'f', '"', '[', '\x7b'] := by
  constructor <;> intro hmem <;>
    simp only [foreign, List.mem_cons, List.not_mem_nil, or_false] at hmem <;>
    rcases hmem with rfl | rfl | rfl | rfl | rfl | rfl <;> revert hc <;> decide

theorem integerText_begins (n : Int) :
    ∃ c text, (integerText n).toList = c :: text ∧ (c.isDigit = true ∨ c = '-') := by
  cases n with
  | ofNat n =>
      obtain ⟨c, digits, hall, hdigit⟩ := Text.exists_toDigits n
      exact ⟨c, digits, by rw [integerText, String.toList_ofList, hall], Or.inl hdigit⟩
  | negSucc n =>
      exact ⟨'-', Nat.toDigits 10 (n + 1), by simp [integerText], Or.inr rfl⟩

theorem render_begins {json : Json} (hjson : Whole json) :
    ∃ c text, (render json).toList = c :: text ∧ c ∉ foreign := by
  cases json with
  | null => exact ⟨'n', _, rfl, by decide⟩
  | bool value =>
      cases value
      · exact ⟨'f', _, rfl, by decide⟩
      · exact ⟨'t', _, rfl, by decide⟩
  | integer n =>
      obtain ⟨c, text, htext, hc⟩ := integerText_begins n
      exact ⟨c, text, by rw [render, htext], (notMem_of_isDigit hc).1⟩
  | float bits => exact hjson.elim
  | string text => exact ⟨'"', _, by rw [render, toList_stringText]; rfl, by decide⟩
  | array elements =>
      exact ⟨'[', _, by rw [render, String.append_assoc, String.toList_append]; rfl, by decide⟩
  | object members =>
      exact ⟨'\x7b', _, by rw [render, String.append_assoc, String.toList_append]; rfl, by decide⟩

end Beginnings

/-- A comma or a bracket ends a number. -/
theorem endsNumber_cons {c : Char} (hc : c ∈ [',', ']', '\x7d']) (rest : List Char) :
    EndsNumber (c :: rest) := by
  intro other hother
  obtain rfl := Option.some.inj hother
  revert hc
  simp only [List.mem_cons, List.not_mem_nil, or_false]
  rintro (rfl | rfl | rfl) <;> decide

theorem value?_integerText {n : Int} (hleast : -0x8000000000000000 ≤ n)
    (hmost : n < 0x10000000000000000) (fuel : Nat) {rest : List Char} (hrest : EndsNumber rest) :
    value? (fuel + 1) ((integerText n).toList ++ rest) = some (integer n, rest) := by
  rw [← number_integerText hleast hmost hrest]
  obtain ⟨c, text, htext, hc⟩ := integerText_begins n
  obtain ⟨hbegins, hother⟩ := notMem_of_isDigit hc
  simp only [List.mem_cons, List.not_mem_nil, or_false, not_or] at hother
  rw [htext, List.cons_append, value?, skipBlanks_of_notMem hbegins]
  simp [hother]

/-- The text of elements or members, which commas separate. -/
def joined (texts : List String) : List Char := (",".intercalate texts).toList

theorem joined_singleton (text : String) : joined [text] = text.toList := by
  simp [joined]

theorem joined_cons_cons (first second : String) (texts : List String) :
    joined (first :: second :: texts) = first.toList ++ ',' :: joined (second :: texts) := by
  simp [joined, String.intercalate_cons_cons]

theorem joined_begins {c : Char} {text : List Char} {first : String}
    (hfirst : first.toList = c :: text) (texts : List String) :
    ∃ later, joined (first :: texts) = c :: later := by
  cases texts with
  | nil => exact ⟨text, by rw [joined_singleton, hfirst]⟩
  | cons second texts =>
      exact ⟨text ++ ',' :: joined (second :: texts), by rw [joined_cons_cons, hfirst]; rfl⟩

theorem toList_render_array (elements : List Json) :
    (render (array elements)).toList = '[' :: joined (renderElements elements) ++ [']'] := by
  simp [render, joined]

theorem toList_render_object (members : List (String × Json)) :
    (render (object members)).toList = '\x7b' :: joined (renderMembers members) ++ ['\x7d'] := by
  simp [render, joined]

theorem value?_stringText {fuel : Nat} {text : String} (hfuel : text.toList.length < fuel)
    (rest : List Char) :
    value? (fuel + 1) ((stringText text).toList ++ rest) = some (string text, rest) := by
  rw [toList_stringText, List.cons_append, List.cons_append, List.append_assoc, value?,
    skipBlanks_of_notMem (by decide)]
  simp [string?_stringText hfuel]

theorem value?_array {c : Char} (hc : c ∉ foreign) (fuel : Nat) (text : List Char) :
    value? (fuel + 1) ('[' :: c :: text) =
      (elements? fuel (c :: text) []).map fun (elements, rest) => (array elements, rest) := by
  have hend : c ≠ ']' := by
    rintro rfl
    exact hc (by decide)
  rw [value?, skipBlanks_of_notMem (by decide)]
  simp [skipBlanks_of_notMem hc, hend]

theorem value?_object (fuel : Nat) (text : List Char) :
    value? (fuel + 1) ('\x7b' :: '"' :: text) =
      (members? fuel ('"' :: text) []).map fun (members, rest) => (ofMembers members, rest) := by
  rw [value?, skipBlanks_of_notMem (by decide)]
  simp [skipBlanks]

-- The recursion is that of the value.  The fuel never falls short because every token that is
-- read is a part of the text, which the fuel exceeds; what follows must end a number, and a
-- comma or a bracket does.
mutual

/-- A written value is read as that value with its objects in order. -/
theorem value?_render : ∀ {json : Json}, Whole json → ∀ {fuel : Nat},
    (render json).toList.length ≤ fuel → ∀ {rest : List Char}, EndsNumber rest →
      value? fuel ((render json).toList ++ rest) = some (settled json, rest)
  | json, hwhole, 0, hfuel, _, _ => by
      obtain ⟨c, text, htext, -⟩ := render_begins hwhole
      simp [htext] at hfuel
  | null, _, fuel + 1, _, rest, _ => by simp [render, value?, skipBlanks, settled]
  | bool true, _, fuel + 1, _, rest, _ => by simp [render, value?, skipBlanks, settled]
  | bool false, _, fuel + 1, _, rest, _ => by simp [render, value?, skipBlanks, settled]
  | integer n, hwhole, fuel + 1, _, rest, hrest => by
      rw [render, value?_integerText hwhole.1 hwhole.2 fuel hrest]
      simp [settled]
  | string text, _, fuel + 1, hfuel, rest, _ => by
      have hlength := length_le_stringText text
      rw [render] at hfuel ⊢
      rw [value?_stringText (by omega) rest]
      simp [settled]
  | array [], _, fuel + 1, _, rest, _ => by
      simp [render, renderElements, value?, skipBlanks, settled, settledElements]
  | array (element :: elements), hwhole, fuel + 1, hfuel, rest, _ => by
      obtain ⟨c, text, htext, hc⟩ := render_begins hwhole.1
      obtain ⟨later, hlater⟩ := joined_begins htext (renderElements elements)
      rw [toList_render_array] at hfuel ⊢
      have hless : (joined (renderElements (element :: elements))).length < fuel := by
        simp at hfuel
        omega
      have hread := elements?_render (List.cons_ne_nil element elements) hwhole hless rest []
      rw [renderElements, hlater] at hread ⊢
      simp only [List.cons_append, List.append_assoc, List.nil_append] at hread ⊢
      rw [value?_array hc, hread]
      simp [settled]
  | object [], _, fuel + 1, _, rest, _ => by
      simp [render, renderMembers, value?, skipBlanks, settled, settledMembers, ofMembers]
  | object ((key, value) :: members), hwhole, fuel + 1, hfuel, rest, _ => by
      have hkey : (stringText key ++ ":" ++ render value).toList =
          '"' :: (escaped key.toList ++ '"' :: ':' :: (render value).toList) := by
        simp [toList_stringText]
      obtain ⟨later, hlater⟩ := joined_begins hkey (renderMembers members)
      rw [toList_render_object] at hfuel ⊢
      have hless : (joined (renderMembers ((key, value) :: members))).length < fuel := by
        simp at hfuel
        omega
      have hread := members?_render (List.cons_ne_nil (key, value) members) hwhole hless rest []
      rw [renderMembers, hlater] at hread ⊢
      simp only [List.cons_append, List.append_assoc, List.nil_append] at hread ⊢
      rw [value?_object, hread]
      simp [settled]

/-- Written elements are read up to the end of their array. -/
theorem elements?_render : ∀ {elements : List Json}, elements ≠ [] → WholeElements elements →
    ∀ {fuel : Nat}, (joined (renderElements elements)).length < fuel →
      ∀ (rest : List Char) (reversed : List Json),
        elements? fuel (joined (renderElements elements) ++ ']' :: rest) reversed =
          some (reversed.reverse ++ settledElements elements, rest)
  | [element], _, hwhole, fuel + 1, hfuel, rest, reversed => by
      simp only [renderElements, joined_singleton] at hfuel ⊢
      have hread := value?_render hwhole.1 (Nat.le_of_lt_succ hfuel)
        (endsNumber_cons (c := ']') (by decide) rest)
      rw [elements?_last hread]
      rfl
  | element :: next :: elements, _, hwhole, fuel + 1, hfuel, rest, reversed => by
      simp only [renderElements, joined_cons_cons, List.length_append,
        List.length_cons] at hfuel ⊢
      have hread := fun later => value?_render hwhole.1 (show _ ≤ fuel by omega)
        (endsNumber_cons (c := ',') (by decide) later)
      have hlater := elements?_render (List.cons_ne_nil next elements) hwhole.2
        (show _ < fuel by rw [renderElements]; omega) rest (settled element :: reversed)
      rw [List.append_assoc, List.cons_append, elements?_next (hread _), ← renderElements, hlater]
      simp [settledElements]

/-- Written members are read up to the end of their object. -/
theorem members?_render : ∀ {members : List (String × Json)}, members ≠ [] →
    WholeMembers members →
    ∀ {fuel : Nat}, (joined (renderMembers members)).length < fuel →
      ∀ (rest : List Char) (reversed : List (String × Json)),
        members? fuel (joined (renderMembers members) ++ '\x7d' :: rest) reversed =
          some (reversed.reverse ++ settledMembers members, rest)
  | [(key, value)], _, hwhole, fuel + 1, hfuel, rest, reversed => by
      have hlength := length_le_stringText key
      simp only [renderMembers, joined_singleton, String.toList_append,
        List.length_append] at hfuel ⊢
      have hread := value?_render hwhole.1 (show _ ≤ fuel by omega)
        (endsNumber_cons (c := '\x7d') (by decide) rest)
      rw [List.append_assoc, List.append_assoc]
      exact members?_last (by omega) hread reversed
  | (key, value) :: (nextKey, next) :: members, _, hwhole, fuel + 1, hfuel, rest, reversed => by
      have hlength := length_le_stringText key
      simp only [renderMembers, joined_cons_cons, String.toList_append, List.length_append,
        List.length_cons] at hfuel ⊢
      have hread := fun later => value?_render hwhole.1 (show _ ≤ fuel by omega)
        (endsNumber_cons (c := ',') (by decide) later)
      have hlater := members?_render (List.cons_ne_nil (nextKey, next) members) hwhole.2
        (show _ < fuel by rw [renderMembers]; omega) rest ((key, settled value) :: reversed)
      have hstep := members?_next (show key.toList.length < fuel by omega)
        (hread (joined (renderMembers ((nextKey, next) :: members)) ++ '\x7d' :: rest)) reversed
      rw [hlater] at hstep
      simpa [renderMembers, settledMembers] using hstep

end

/-- The text of a value whose numbers are all integers of 64 bits is read as that value, with
the members of its objects in order. -/
theorem parse?_render {json : Json} (hwhole : Whole json) :
    parse? (render json) = some (settled json) := by
  have hends : EndsNumber [] := nofun
  have hfuel : (render json).toList.length ≤ 2 * (render json).length + 2 := by
    rw [String.length_toList]
    omega
  have hread := value?_render hwhole hfuel hends
  rw [List.append_nil] at hread
  rw [parse?, hread, Option.bind_eq_bind, Option.bind_some]
  rfl

end BrowserBridge.Json
