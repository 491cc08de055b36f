/-!
Decimal numerals.
-/

namespace BrowserBridge.Text

def digit? (c : Char) : Option Nat :=
  if '0' ≤ c && c ≤ '9' then some (c.toNat - 48) else none

/-- The number that decimal digits spell, or `none` if one of the characters is no
digit. -/
def digitsValue? (digits : List Char) : Option Nat :=
  digits.foldlM (fun n c => (digit? c).map (n * 10 + ·)) 0

/-- A number below `bound` from its numeral, which may have a plus sign. -/
def natBelow? (bound : Nat) (text : String) : Option Nat :=
  let digits := match text.toList with
    | '+' :: rest => rest
    | all => all
  if digits.isEmpty then none
  else (digitsValue? digits).filter (· < bound)

theorem digit?_of_isDigit {c : Char} (h : c.isDigit = true) :
    digit? c = some (c.toNat - '0'.toNat) := by
  rw [Char.isDigit, Bool.and_eq_true, decide_eq_true_eq, decide_eq_true_eq] at h
  exact if_pos (by simpa [Char.le_def] using h)

/-- Digits alone spell the number that they stand for. -/
theorem digitsValue?_of_isDigit {digits : List Char} (h : ∀ c ∈ digits, c.isDigit = true) :
    digitsValue? digits = some (Nat.ofDigitChars 10 digits 0) := by
  suffices ∀ n, digits.foldlM (fun n c => (digit? c).map (n * 10 + ·)) n =
      some (Nat.ofDigitChars 10 digits n) from this 0
  intro n
  induction digits generalizing n with
  | nil => rfl
  | cons c rest ih =>
      obtain ⟨hc, hrest⟩ := List.forall_mem_cons.mp h
      rw [List.foldlM_cons, digit?_of_isDigit hc, Nat.ofDigitChars_cons, Nat.mul_comm 10 n]
      exact ih hrest _

theorem isDigit_of_digit? {c : Char} {n : Nat} (h : digit? c = some n) : c.isDigit = true := by
  rw [digit?] at h
  split at h
  · next hrange => simpa [Char.isDigit, Char.le_def] using hrange
  · cases h

/-- What spells a number has digits alone. -/
theorem isDigit_of_digitsValue? {digits : List Char} {value : Nat}
    (h : digitsValue? digits = some value) : ∀ c ∈ digits, c.isDigit = true := by
  suffices ∀ n, digits.foldlM (fun n c => (digit? c).map (n * 10 + ·)) n = some value →
      ∀ c ∈ digits, c.isDigit = true from this 0 h
  clear h
  induction digits with
  | nil => exact fun _ _ => List.forall_mem_nil _
  | cons c rest ih =>
      intro n h
      obtain ⟨next, hnext, hrest⟩ := Option.bind_eq_some_iff.mp h
      obtain ⟨d, hd, -⟩ := Option.map_eq_some_iff.mp hnext
      exact List.forall_mem_cons.mpr ⟨isDigit_of_digit? hd, ih next hrest⟩

/-- A text is a decimal numeral of a number: digits that stand for it, with or without a plus
sign before them. -/
def IsNumeral (text : String) (n : Nat) : Prop :=
  ∃ digits, (text.toList = digits ∨ text.toList = '+' :: digits) ∧ digits ≠ [] ∧
    (∀ c ∈ digits, c.isDigit = true) ∧ Nat.ofDigitChars 10 digits 0 = n

theorem isDigit_toDigits (n : Nat) : ∀ c ∈ Nat.toDigits 10 n, c.isDigit = true := fun _ hc =>
  Nat.isDigit_of_mem_toDigits (by decide) (by decide) hc

/-- A decimal numeral begins with a digit. -/
theorem exists_toDigits (n : Nat) :
    ∃ c digits, Nat.toDigits 10 n = c :: digits ∧ c.isDigit = true := by
  have hsome : Nat.toDigits 10 n ≠ [] := Nat.toDigits_ne_nil
  obtain ⟨c, digits, hall⟩ := List.exists_cons_of_ne_nil hsome
  exact ⟨c, digits, hall, isDigit_toDigits n c (hall ▸ List.mem_cons_self)⟩

theorem natBelow?_of_digits {bound : Nat} {text : String} {digits : List Char}
    (htext : text.toList = digits ∨ text.toList = '+' :: digits) (hsome : digits ≠ [])
    (hdigits : ∀ c ∈ digits, c.isDigit = true) :
    natBelow? bound text = (digitsValue? digits).filter (· < bound) := by
  obtain ⟨c, rest, rfl⟩ := List.exists_cons_of_ne_nil hsome
  have hplus : c ≠ '+' := by
    rintro rfl
    exact absurd (hdigits '+' List.mem_cons_self) (by decide)
  rcases htext with htext | htext <;> rw [natBelow?, htext] <;> simp [hplus]

/-- The numerals of numbers below the bound are read, and nothing else. -/
theorem natBelow?_eq_some_iff {bound n : Nat} {text : String} :
    natBelow? bound text = some n ↔ IsNumeral text n ∧ n < bound := by
  constructor
  · intro h
    rw [natBelow?] at h
    obtain ⟨digits, htext, hread⟩ : ∃ digits,
        (text.toList = digits ∨ text.toList = '+' :: digits) ∧
          (if digits.isEmpty then none else (digitsValue? digits).filter (· < bound)) = some n := by
      revert h
      split
      · next rest hrest => exact fun h => ⟨rest, .inr hrest, h⟩
      · exact fun h => ⟨_, .inl rfl, h⟩
    split at hread
    · cases hread
    · next hsome =>
      obtain ⟨hvalue, hless⟩ := Option.filter_eq_some_iff.mp hread
      have hdigits := isDigit_of_digitsValue? hvalue
      rw [digitsValue?_of_isDigit hdigits] at hvalue
      exact ⟨⟨digits, htext, by simpa using hsome, hdigits, Option.some.inj hvalue⟩,
        of_decide_eq_true hless⟩
  · rintro ⟨⟨digits, htext, hsome, hdigits, rfl⟩, hless⟩
    rw [natBelow?_of_digits htext hsome hdigits, digitsValue?_of_isDigit hdigits,
      Option.filter_some, if_pos (by simpa using hless)]

theorem isNumeral_toString (n : Nat) : IsNumeral (toString n) n :=
  ⟨Nat.toDigits 10 n, .inl (by rw [Nat.toString_eq_ofList_toDigits, String.toList_ofList]),
    Nat.toDigits_ne_nil, isDigit_toDigits n, Nat.ofDigitChars_toDigits (by decide) (by decide)⟩

/-- A number is read off its own decimal numeral. -/
theorem natBelow?_toString {bound n : Nat} (h : n < bound) :
    natBelow? bound (toString n) = some n :=
  natBelow?_eq_some_iff.mpr ⟨isNumeral_toString n, h⟩

/-- Different numbers have different decimal numerals. -/
theorem toString_inj {m n : Nat} (h : toString m = toString n) : m = n := by
  have hm := natBelow?_toString (Nat.lt_succ_of_le (Nat.le_max_left m n))
  have hn := natBelow?_toString (Nat.lt_succ_of_le (Nat.le_max_right m n))
  rw [h] at hm
  exact Option.some.inj (hm.symm.trans hn)

end BrowserBridge.Text
