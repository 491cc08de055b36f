/-!
Texts written in ASCII: the ASCII characters of a text come first, and behind a hyphen
the others follow in the order of their code points, each by how far it lies behind
the one before.  A distance is a number of variable length, least digit first.
-/

namespace BrowserBridge.Text.Punycode

def digit? (c : Char) : Option Nat :=
  if 'a' ≤ c && c ≤ 'z' then some (c.toNat - 'a'.toNat)
  else if '0' ≤ c && c ≤ '9' then some (c.toNat - '0'.toNat + 26)
  else none

/-- The value from which on a digit is not the last one. -/
def threshold (position bias : Nat) : Nat :=
  if position ≤ bias then 1 else if bias + 26 ≤ position then 26 else position - bias

/-- Reads a distance: its value and what is left.  `weight` is the weight of the next
digit, and one that does not fit in 32 bits is refused. -/
def takeDistance (bias : Nat) :
    (position weight value : Nat) → List Char → Option (Nat × List Char)
  | _, _, _, [] => none
  | position, weight, value, c :: rest =>
    match digit? c with
    | none => none
    | some digit =>
      let value := value + digit * weight
      let limit := threshold position bias
      if 0x100000000 ≤ value then none
      else if digit < limit then some (value, rest)
      else if 0x100000000 ≤ weight * (36 - limit) then none
      else takeDistance bias (position + 36) (weight * (36 - limit)) value rest

/-- A distance takes at least one digit, and it is no less than where it counts from. -/
theorem takeDistance_eq_some {bias position weight value place : Nat} {input rest : List Char}
    (h : takeDistance bias position weight value input = some (place, rest)) :
    rest.length < input.length ∧ value ≤ place := by
  induction input generalizing position weight value with
  | nil => cases h
  | cons c input ih =>
      rw [takeDistance] at h
      split at h
      · cases h
      · next digit _ =>
        have hle : value ≤ value + digit * weight := Nat.le_add_right value _
        dsimp only at h
        split at h
        · cases h
        · split at h
          · cases h
            exact ⟨Nat.lt_succ_self _, hle⟩
          · split at h
            · cases h
            · obtain ⟨hshorter, hplace⟩ := ih h
              exact ⟨Nat.lt_succ_of_lt hshorter, Nat.le_trans hle hplace⟩

/-- What remains of a distance after it was divided down, and how often it was. -/
def divideDown (distance times : Nat) : Nat × Nat :=
  if h : 455 < distance then divideDown (distance / 35) (times + 1) else (distance, times)
termination_by distance
decreasing_by exact Nat.div_lt_self (by omega) (by omega)

/-- The bias for the next distance, after the first one or a later one to a text of
some length. -/
def nextBias (distance length : Nat) (isFirst : Bool) : Nat :=
  let distance := if isFirst then distance / 700 else distance / 2
  let (rest, times) := divideDown (distance + distance / length) 0
  36 * times + 36 * rest / (rest + 38)

/-- Inserts characters into a text by their distances.  `code` is the code point of the
last one, and `index` the place behind it. -/
def insertAll (text : List Char) (code index bias : Nat) (input : List Char) :
    Option (List Char) :=
  if input.isEmpty then some text
  else
    match _h : takeDistance bias 36 1 index input with
    | none => none
    | some (place, rest) =>
      let length := text.length + 1
      let bias := nextBias (place - index) length (index == 0)
      let code := code + place / length
      let at' := place % length
      if code.isValidChar then
        insertAll (text.take at' ++ Char.ofNat code :: text.drop at') code (at' + 1) bias rest
      else none
termination_by input.length
decreasing_by exact (takeDistance_eq_some _h).1

/-- The ASCII characters of a text, and the distances behind them. -/
def parts (input : List Char) : List Char × List Char :=
  let behind := (input.reverse.takeWhile (· ≠ '-')).reverse
  let front := (input.take (input.length - behind.length)).dropLast
  if front.isEmpty then ([], input) else (front, behind)

def decode (input : List Char) : Option (List Char) :=
  insertAll (parts input).1 128 0 72 (parts input).2

/-- Whether a character is written as it is. -/
def isBasic (c : Char) : Bool := c.toNat < 0x80

/-- What is inserted is none of the characters that are written as they are, and each such
character takes at least one digit. -/
theorem insertAll_eq_some {text input found : List Char} {code index bias : Nat}
    (hcode : 0x80 ≤ code) (h : insertAll text code index bias input = some found) :
    found.filter isBasic = text.filter isBasic ∧
      found.length ≤ text.length + input.length := by
  fun_induction insertAll text code index bias input with
  | case1 text code index bias input hempty =>
      cases h
      exact ⟨rfl, Nat.le_add_right _ _⟩
  | case2 | case4 => cases h
  | case3 text code index bias input hempty place rest hread length _ code' at' hvalid ih =>
      have hlater : 0x80 ≤ code' := Nat.le_trans hcode (Nat.le_add_right _ _)
      have hcode' : (Char.ofNat code').toNat = code' := by
        rw [Char.ofNat, dif_pos hvalid]
        rfl
      have hother : isBasic (Char.ofNat code') = false := by
        rw [isBasic, hcode']
        exact decide_eq_false (Nat.not_lt.mpr hlater)
      obtain ⟨hbasic, hlength⟩ := ih hlater h
      have hshorter := (takeDistance_eq_some hread).1
      constructor
      · rw [hbasic, List.filter_append, List.filter_cons_of_neg (by simp [hother]),
          ← List.filter_append, List.take_append_drop]
      · simp only [List.length_append, List.length_cons, List.length_take, List.length_drop]
          at hlength
        omega

theorem length_parts (input : List Char) :
    (parts input).1.length + (parts input).2.length ≤ input.length := by
  have hbehind : (input.reverse.takeWhile (· ≠ '-')).length ≤ input.length := by
    simpa using (List.takeWhile_sublist (· ≠ '-') (l := input.reverse)).length_le
  simp only [parts]
  split
  · simp
  · simp only [List.length_dropLast, List.length_take, List.length_reverse]
    omega

/-- A text that is read is no longer than its spelling, and its ASCII characters are those that
stand in front there. -/
theorem decode_eq_some {input text : List Char} (h : decode input = some text) :
    text.filter isBasic = (parts input).1.filter isBasic ∧ text.length ≤ input.length :=
  have ⟨hbasic, hlength⟩ := insertAll_eq_some (Nat.le_refl _) h
  ⟨hbasic, Nat.le_trans hlength (length_parts input)⟩

end BrowserBridge.Text.Punycode
