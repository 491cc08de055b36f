import BrowserBridge.Shell.Field

/-!
What quotes are for.  Splitting a word into fields takes nothing away but separators that
stand outside of quotes, a value in quotes is one field, and arguments in quotes are as many
fields as there are arguments.  A pattern in quotes matches nothing but its own text.
-/

namespace BrowserBridge.Shell

section Fields

variable (separators : Chars)

/-- The letters of a word at which it is not split. -/
def kept : List Glyph → List Letter
  | [] => []
  | .letter found canSplit :: rest =>
    if canSplit && separators.contains found.char then kept rest else found :: kept rest
  | _ :: rest => kept rest

theorem flatten_separated (splitting : Splitting) (isBlank : Bool) (fields : List (List Letter)) :
    ((splitting.separated isBlank).1.toList ++ fields).flatten =
      (splitting.current.getD []).reverse ++ fields.flatten ∧
        (splitting.separated isBlank).2.current = none := by
  rw [Splitting.separated]
  cases hcurrent : splitting.current with
  | some letters => exact ⟨rfl, rfl⟩
  | none =>
      cases splitting.isSharp <;> cases isBlank <;> cases splitting.isPending <;>
        simp [hcurrent]

theorem flatten_splitFields (splitting : Splitting) (glyphs : List Glyph) :
    (splitFields separators splitting glyphs).flatten =
      (splitting.current.getD []).reverse ++ kept separators glyphs := by
  fun_induction splitFields separators splitting glyphs with
  | case1 splitting => cases splitting.current <;> simp [kept]
  | case2 splitting rest current ih => exact ih
  | case3 splitting isArguments rest ih => exact ih
  | case4 splitting rest field splitting' heq ih =>
      obtain ⟨hflatten, hnone⟩ := flatten_separated splitting true
        (splitFields separators splitting' rest)
      rw [heq] at hflatten hnone
      rw [hflatten, ih, hnone]
      rfl
  | case5 splitting found canSplit rest hsplit field splitting' heq ih =>
      obtain ⟨hflatten, hnone⟩ := flatten_separated splitting
        (isBlankSeparator separators found.char) (splitFields separators splitting' rest)
      rw [heq] at hflatten hnone
      rw [hflatten, ih, hnone, kept, if_pos hsplit]
      rfl
  | case6 splitting found canSplit rest hsplit current ih =>
      rw [ih, kept, if_neg hsplit]
      simp [current]

/-- Fields are what the word is without the separators that it is split at. -/
theorem flatten_fieldsOf (glyphs : List Glyph) :
    (fieldsOf separators glyphs).flatten = kept separators glyphs :=
  flatten_splitFields separators {} glyphs

theorem mem_kept {glyphs : List Glyph} {found : Letter} (h : found ∈ kept separators glyphs) :
    ∃ canSplit, .letter found canSplit ∈ glyphs ∧
      (canSplit = true → found.char ∉ separators) := by
  have hlater {glyph : Glyph} {rest : List Glyph} (h : ∃ canSplit, .letter found canSplit ∈ rest ∧
      (canSplit = true → found.char ∉ separators)) :
      ∃ canSplit, .letter found canSplit ∈ glyph :: rest ∧
        (canSplit = true → found.char ∉ separators) :=
    h.imp fun _ ⟨hmem, hstays⟩ => ⟨List.mem_cons_of_mem glyph hmem, hstays⟩
  fun_induction kept separators glyphs with
  | case1 => cases h
  | case2 letter canSplit rest hsplit ih | case4 glyph rest hglyph ih => exact hlater (ih h)
  | case3 letter canSplit rest hsplit ih =>
      rcases List.mem_cons.mp h with rfl | h
      · exact ⟨canSplit, List.mem_cons_self, by simpa using hsplit⟩
      · exact hlater (ih h)

/-- A field has a separator only where it stands in quotes or cannot be split. -/
theorem mem_of_mem_fieldsOf {glyphs : List Glyph} {field : List Letter} {found : Letter}
    (hfield : field ∈ fieldsOf separators glyphs) (hfound : found ∈ field) :
    ∃ canSplit, .letter found canSplit ∈ glyphs ∧
      (canSplit = true → found.char ∉ separators) := by
  refine mem_kept separators ?_
  rw [← flatten_fieldsOf]
  exact List.mem_flatten.mpr ⟨field, hfield, hfound⟩

/-- A text as letters in quotes. -/
def quotedLetters (text : Chars) : List Letter := text.map (⟨·, true⟩)

theorem splitFields_ofText (current : List Letter) (isSharp isArguments : Bool) (text : Chars)
    (rest : List Glyph) :
    splitFields separators ⟨some current, false, isSharp, isArguments⟩
      (Glyph.ofText true false text ++ rest) =
        splitFields separators
          ⟨some ((quotedLetters text).reverse ++ current), false, isSharp, isArguments⟩ rest := by
  induction text generalizing current with
  | nil => rfl
  | cons c text ih =>
      change splitFields separators _
        (.letter ⟨c, true⟩ false :: (Glyph.ofText true false text ++ rest)) = _
      rw [splitFields, Bool.false_and, if_neg Bool.false_ne_true]
      simp only [Option.getD_some]
      rw [ih]
      simp [quotedLetters]

/-- A value in quotes is one field, whatever stands in it. -/
theorem fieldsOf_ofValue (text : Chars) :
    fieldsOf separators (Glyph.ofValue true text) = [quotedLetters text] := by
  have hfield := splitFields_ofText separators [] false false text []
  rw [List.append_nil, List.append_nil] at hfield
  change splitFields separators ⟨some [], false, false, false⟩ (Glyph.ofText true false text) = _
  rw [hfield, splitFields, Option.map_some, List.reverse_reverse]
  rfl

/-- Arguments in quotes are one field each. -/
theorem fieldsOf_ofArguments (args : List Chars) :
    fieldsOf separators (Glyph.ofArguments true args) = args.map quotedLetters := by
  have hbegin (isPending : Bool) (arg : Chars) (rest : List Glyph) :
      splitFields separators ⟨none, isPending, false, true⟩
        ([Glyph.quotes] ++ Glyph.ofText true false arg ++ rest) =
          splitFields separators ⟨some (quotedLetters arg).reverse, false, false, true⟩ rest := by
    change splitFields separators ⟨some [], false, false, true⟩
      (Glyph.ofText true false arg ++ rest) = _
    rw [splitFields_ofText, List.append_nil]
  suffices ∀ isPending, splitFields separators ⟨none, isPending, false, true⟩
      ([Glyph.gap].intercalate (args.map fun arg =>
        [Glyph.quotes] ++ Glyph.ofText true false arg)) = args.map quotedLetters from this false
  induction args with
  | nil => exact fun _ => rfl
  | cons arg args ih =>
      intro isPending
      cases args with
      | nil =>
          have hlast := hbegin isPending arg []
          rw [List.append_nil] at hlast
          rw [List.map_singleton, List.intercalate_singleton, hlast, splitFields,
            Option.map_some, List.reverse_reverse]
          rfl
      | cons next args =>
          rw [List.map_cons, List.map_cons, List.intercalate_cons_cons, List.append_assoc, hbegin]
          change (quotedLetters arg).reverse.reverse ::
            splitFields separators ⟨none, true, false, true⟩ ([Glyph.gap].intercalate
              ((next :: args).map fun arg => [Glyph.quotes] ++ Glyph.ofText true false arg)) = _
          rw [ih true, List.reverse_reverse]
          rfl

end Fields

section Patterns

theorem asks_quotedLetters (text : Chars) : asks (quotedLetters text) = text.map .char := by
  suffices ∀ fuel, text.length < fuel → askFrom fuel (quotedLetters text) = text.map .char from
    this _ (by simp [quotedLetters])
  induction text with
  | nil =>
      intro fuel hfuel
      obtain ⟨fuel, rfl⟩ := Nat.exists_eq_succ_of_ne_zero (Nat.ne_zero_of_lt hfuel)
      rfl
  | cons c text ih =>
      intro fuel hfuel
      obtain ⟨fuel, rfl⟩ := Nat.exists_eq_succ_of_ne_zero (Nat.ne_zero_of_lt hfuel)
      exact congrArg (.char c :: ·) (ih fuel (Nat.lt_of_succ_lt_succ hfuel))

theorem satisfies_char (text other : Chars) :
    satisfies (text.map .char) other = decide (other = text) := by
  induction text generalizing other with
  | nil => cases other <;> simp [satisfies]
  | cons c text ih =>
      cases other with
      | nil => simp [satisfies]
      | cons d other => simp [satisfies, ih, eq_comm]

/-- A pattern in quotes matches nothing but its own text. -/
theorem isMatch_quotedLetters (text other : Chars) :
    isMatch (quotedLetters text) other = decide (other = text) := by
  rw [isMatch, asks_quotedLetters, satisfies_char]

end Patterns

end BrowserBridge.Shell
