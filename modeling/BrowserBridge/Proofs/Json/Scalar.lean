import BrowserBridge.Json.Parser
import BrowserBridge.Json.Printer
import Mathlib.Data.List.TakeDrop
import Mathlib.Tactic.SplitIfs

/-!
Strings and integers in JSON text: what is written of one is read as the same one again,
whatever follows it that cannot belong to it.
-/

namespace BrowserBridge.Json

section Strings

theorem hexDigit?_digitChar {n : Nat} (hn : n < 16) : hexDigit? (Nat.digitChar n) = some n := by
  revert n
  decide

/-- A control character is read off its four hexadecimal digits. -/
theorem escape_control {c : Char} (hcontrol : c.toNat < 32) (rest : List Char) :
    escape ('u' :: '0' :: '0' :: Nat.digitChar (c.toNat / 16) ::
      Nat.digitChar (c.toNat % 16) :: rest) = some (c, rest) := by
  have hhigh : hexDigit? (Nat.digitChar (c.toNat / 16)) = some (c.toNat / 16) :=
    hexDigit?_digitChar (by omega)
  have hlow : hexDigit? (Nat.digitChar (c.toNat % 16)) = some (c.toNat % 16) :=
    hexDigit?_digitChar (by omega)
  have hzero : hexDigit? '0' = some 0 := rfl
  have hunit : (0 * 16 + 0) * 256 + c.toNat / 16 * 16 + c.toNat % 16 = c.toNat := by omega
  have hless : (c.toNat < 0xD800 || 0xDFFF < c.toNat) = true := by
    simp only [Bool.or_eq_true, decide_eq_true_eq]
    omega
  simp only [escape, hexUnit, hzero, hhigh, hlow, bind, Option.bind, pure, hunit]
  rw [if_pos hless, Char.ofNat_toNat]

/-- The digits of a control character, with zeros in front. -/
theorem hex_control {n : Nat} (hn : n < 32) :
    (if n < 16 then "\\u000" ++ Text.hex n else "\\u00" ++ Text.hex n).toList =
      ['\\', 'u', '0', '0', Nat.digitChar (n / 16), Nat.digitChar (n % 16)] := by
  revert n
  decide

/-- Reading a written character puts it before what was read. -/
theorem string?_escapedChar (c : Char) (fuel : Nat) (rest reversed : List Char) :
    string? (fuel + 1) ((escapedChar c).toList ++ rest) reversed =
      string? fuel rest (c :: reversed) := by
  unfold escapedChar
  split_ifs with hquote hbackslash hback hfeed hnewline hreturn htab hsmall hcontrol
  iterate 7 · subst c; rfl
  · have hhex := hex_control (show c.toNat < 32 by omega)
    rw [if_pos hsmall] at hhex
    rw [hhex]
    simp [string?, escape_control (show c.toNat < 32 by omega)]
  · have hhex := hex_control hcontrol
    rw [if_neg hsmall] at hhex
    rw [hhex]
    simp [string?, escape_control hcontrol]
  · simp [string?, hcontrol]

/-- The characters that a text is written with between its quotes. -/
def escaped (text : List Char) : List Char := text.flatMap fun c => (escapedChar c).toList

theorem toList_stringText (text : String) :
    (stringText text).toList = '"' :: escaped text.toList ++ ['"'] := by
  simp [stringText, String.toList_join, escaped, List.flatMap, Function.comp_def]

theorem length_le_escaped (text : List Char) : text.length ≤ (escaped text).length := by
  induction text with
  | nil => simp
  | cons c text ih =>
      have hpos : 0 < (escapedChar c).toList.length := by
        unfold escapedChar
        split_ifs <;> simp
      rw [escaped, List.flatMap_cons, List.length_append, List.length_cons]
      rw [escaped] at ih
      omega

/-- Characters are read up to the quote behind them. -/
theorem string?_escaped (text : List Char) {fuel : Nat} (hfuel : text.length < fuel)
    (rest reversed : List Char) :
    string? fuel (escaped text ++ '"' :: rest) reversed =
      some (String.ofList (reversed.reverse ++ text), rest) := by
  induction text generalizing fuel reversed with
  | nil =>
      obtain ⟨fuel, rfl⟩ := Nat.exists_eq_succ_of_ne_zero (Nat.ne_of_gt hfuel)
      simp [string?, escaped]
  | cons c text ih =>
      obtain ⟨fuel, rfl⟩ := Nat.exists_eq_succ_of_ne_zero (Nat.ne_of_gt (Nat.zero_lt_of_lt hfuel))
      rw [escaped, List.flatMap_cons, List.append_assoc, string?_escapedChar, ← escaped,
        ih (Nat.lt_of_succ_lt_succ hfuel)]
      simp

/-- A written text is read up to its closing quote. -/
theorem string?_stringText {fuel : Nat} {content : String} {rest : List Char}
    (hfuel : content.toList.length < fuel) :
    string? fuel (escaped content.toList ++ '"' :: rest) [] = some (content, rest) := by
  simpa using string?_escaped content.toList hfuel rest []

theorem length_le_stringText (content : String) :
    content.toList.length + 2 ≤ (stringText content).toList.length := by
  have hlength := length_le_escaped content.toList
  simp only [toList_stringText, List.cons_append, List.length_cons, List.length_append,
    List.length_nil]
  omega

end Strings

section Integers

/-- What may follow a number: neither a digit nor what continues a number. -/
def EndsNumber (rest : List Char) : Prop :=
  ∀ c ∈ rest.head?, Text.digit? c = none ∧ c ≠ '.' ∧ c ≠ 'e' ∧ c ≠ 'E'

theorem takeDigits_append {digits rest : List Char} (hdigits : ∀ c ∈ digits, c.isDigit = true)
    (hrest : EndsNumber rest) :
    takeDigits (digits ++ rest) = (digits.filterMap Text.digit?, rest) := by
  have hsome : ∀ c ∈ digits, (Text.digit? c).isSome = true := fun c hc => by
    rw [Text.digit?_of_isDigit (hdigits c hc)]
    rfl
  have hstop : rest.takeWhile (fun c => (Text.digit? c).isSome) = [] ∧
      rest.dropWhile (fun c => (Text.digit? c).isSome) = rest := by
    cases rest with
    | nil => simp
    | cons c rest => simp [(hrest c rfl).1]
  simp only [takeDigits, List.span_eq_takeWhile_dropWhile, List.takeWhile_append_of_pos hsome,
    List.dropWhile_append_of_pos hsome, hstop, List.append_nil]

/-- More digits only make a number greater. -/
theorem le_ofDigitChars (digits : List Char) (n : Nat) : n ≤ Nat.ofDigitChars 10 digits n := by
  induction digits generalizing n with
  | nil => simp
  | cons c digits ih =>
      rw [Nat.ofDigitChars_cons]
      exact Nat.le_trans (by omega) (ih _)

/-- Digits that fit are all appended. -/
theorem appendDigits_filterMap {digits : List Char} (hdigits : ∀ c ∈ digits, c.isDigit = true)
    {n : Nat} (hfits : Nat.ofDigitChars 10 digits n < 0x10000000000000000) :
    appendDigits n (digits.filterMap Text.digit?) =
      (Nat.ofDigitChars 10 digits n, digits.length, 0) := by
  induction digits generalizing n with
  | nil => simp [appendDigits]
  | cons c digits ih =>
      obtain ⟨hc, hrest⟩ := List.forall_mem_cons.mp hdigits
      rw [Nat.ofDigitChars_cons, Nat.mul_comm 10 n] at hfits ⊢
      have hnext := Nat.lt_of_le_of_lt (le_ofDigitChars digits _) hfits
      rw [List.filterMap_cons_some (Text.digit?_of_isDigit hc), appendDigits]
      simp only [hnext, if_true, ih hrest hfits, List.length_cons]

theorem digitChar_ne_zero {n : Nat} (hn : n < 10) (hpos : 0 < n) : Nat.digitChar n ≠ '0' := by
  revert n
  decide

/-- The numeral of a number above zero does not begin with a zero. -/
theorem head?_toDigits {n : Nat} (hpos : 0 < n) : (Nat.toDigits 10 n).head? ≠ some '0' := by
  induction n using Nat.strongRecOn with
  | _ n ih =>
      by_cases hsmall : n < 10
      · rw [Nat.toDigits_of_lt_base hsmall]
        simpa using digitChar_ne_zero hsmall hpos
      · rw [Nat.toDigits_of_base_le (by decide) (by omega), List.head?_append,
          List.head?_eq_some_head Nat.toDigits_ne_nil, Option.some_or, ← List.head?_eq_some_head]
        exact ih (n / 10) (by omega) (by omega)

/-- The digits of a numeral, as they are read. -/
def numeral (n : Nat) : List Nat := (Nat.toDigits 10 n).filterMap Text.digit?

theorem appendDigits_numeral {n : Nat} (hn : n < 0x10000000000000000) :
    appendDigits 0 (numeral n) = (n, (Nat.toDigits 10 n).length, 0) := by
  have hvalue : Nat.ofDigitChars 10 (Nat.toDigits 10 n) 0 = n :=
    Nat.ofDigitChars_toDigits (by decide) (by decide)
  rw [numeral, appendDigits_filterMap (Text.isDigit_toDigits n) (hvalue.symm ▸ hn), hvalue]

/-- A numeral has digits, and a zero in front only on its own. -/
theorem numeral_leading (n : Nat) :
    numeral n ≠ [] ∧ ((numeral n).head? = some 0 → (numeral n).length = 1) := by
  by_cases hpos : 0 < n
  · obtain ⟨c, digits, hall, hdigit⟩ := Text.exists_toDigits n
    have hzero : c ≠ '0' := by
      have hhead := head?_toDigits hpos
      rwa [hall, List.head?_cons, ne_eq, Option.some_inj] at hhead
    have hvalue : c.toNat - '0'.toNat ≠ 0 := fun hsame => by
      have hleast : '0'.toNat ≤ c.toNat := (Char.isDigit_iff_toNat.mp hdigit).1
      exact hzero (Char.toNat_inj.mp (by omega))
    rw [numeral, hall, List.filterMap_cons_some (Text.digit?_of_isDigit hdigit)]
    exact ⟨List.cons_ne_nil _ _, fun hhead => absurd (Option.some.inj hhead) hvalue⟩
  · rw [Nat.eq_zero_of_not_pos hpos]
    decide

theorem takeExponent_of_endsNumber {rest : List Char} (hrest : EndsNumber rest) :
    takeExponent rest = some (0, rest) := by
  cases rest with
  | nil => rfl
  | cons c rest =>
      obtain ⟨-, -, hlower, hupper⟩ := hrest c rfl
      simp [takeExponent, hlower, hupper]

/-- A numeral is read as an integer, with a minus sign in front as its negative. -/
theorem number_toDigits {negative : Bool} {n : Nat} (hn : n < 0x10000000000000000)
    (hnegative : negative = true → n ≠ 0 ∧ n ≤ 0x8000000000000000) {rest : List Char}
    (hrest : EndsNumber rest) :
    number ((if negative then ['-'] else []) ++ Nat.toDigits 10 n ++ rest) =
      some (integer (if negative then -n else n), rest) := by
  obtain ⟨c, digits, hall, hdigit⟩ := Text.exists_toDigits n
  have hminus : ∀ later, c :: (digits ++ rest) ≠ '-' :: later := by
    intro later hsame
    obtain ⟨rfl, -⟩ := List.cons.inj hsame
    exact absurd hdigit (by decide)
  have htake : takeDigits (c :: (digits ++ rest)) = (numeral n, rest) := by
    rw [← List.cons_append, ← hall]
    exact takeDigits_append (Text.isDigit_toDigits n) hrest
  have hdot : ∀ later, rest ≠ '.' :: later := by
    rintro later rfl
    exact (hrest '.' rfl).2.1 rfl
  have hlower : rest.head? ≠ some 'e' := fun hhead => (hrest 'e' hhead).2.2.1 rfl
  have hupper : rest.head? ≠ some 'E' := fun hhead => (hrest 'E' hhead).2.2.2 rfl
  obtain ⟨hdigits, hzero⟩ := numeral_leading n
  rw [hall]
  -- `hminus` and `hdot` decide the matches of the reader on a sign and on a point.
  cases negative with
  | false =>
      simpa [number, htake, hdigits, takeExponent_of_endsNumber hrest, appendDigits_numeral hn,
        appendDigits, hlower, hupper] using hzero
  | true =>
      simpa [number, htake, hdigits, takeExponent_of_endsNumber hrest, appendDigits_numeral hn,
        appendDigits, hlower, hupper, hnegative rfl] using hzero

/-- The text of a 64-bit integer, with or without a sign, is read as that integer. -/
theorem number_integerText {n : Int} (hleast : -0x8000000000000000 ≤ n)
    (hmost : n < 0x10000000000000000) {rest : List Char} (hrest : EndsNumber rest) :
    number ((integerText n).toList ++ rest) = some (integer n, rest) := by
  cases n with
  | ofNat n =>
      have hplain : false = true → n ≠ 0 ∧ n ≤ 0x8000000000000000 := nofun
      have hfits : n < 0x10000000000000000 := Int.ofNat_lt.mp hmost
      simpa [integerText] using number_toDigits hfits hplain hrest
  | negSucc n =>
      have hleft : n + 1 ≠ 0 ∧ n + 1 ≤ 0x8000000000000000 := by omega
      have hnegative : true = true → n + 1 ≠ 0 ∧ n + 1 ≤ 0x8000000000000000 := fun _ => hleft
      simpa [integerText, Int.negSucc_eq] using number_toDigits (by omega) hnegative hrest

end Integers

end BrowserBridge.Json
