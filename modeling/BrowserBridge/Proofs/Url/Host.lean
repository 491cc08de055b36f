import BrowserBridge.Proofs.Json.Scalar
import BrowserBridge.Proofs.List.Split
import BrowserBridge.Proofs.Url.Written
import BrowserBridge.Url.Host
import Mathlib.Algebra.Group.Nat.Defs

/-!
Hosts that were read.  What is read is of one form, and the text of a host in that form is
read as that host again.
-/

namespace BrowserBridge.UrlHost

/-- A host as it is when it was read: a name in lower case that is no number, or an address
that fits its type. -/
def WellFormed : UrlHost → Prop
  | name text =>
    text.toList ≠ [] ∧ (∀ c ∈ text.toList, isForbidden c = false ∧ c.toLower = c) ∧
      Domain.isName text.toList = true ∧ endsInNumber text.toList = false
  | ipv4 address => address < 0x100000000
  | ipv6 pieces => pieces.length = 8 ∧ ∀ piece ∈ pieces, piece < 0x10000

theorem toLower_toLower (c : Char) : c.toLower.toLower = c.toLower := by
  by_cases hupper : 'A'.val ≤ c.val ∧ c.val ≤ 'Z'.val
  · have hlower : c.toLower.val = c.val + 32 := congrArg Char.val (dif_pos hupper)
    have hlow : 65 ≤ c.val.toNat := UInt32.le_iff_toNat_le.mp hupper.1
    have hhigh : c.val.toNat ≤ 90 := UInt32.le_iff_toNat_le.mp hupper.2
    have hnot : ¬ ('A'.val ≤ c.toLower.val ∧ c.toLower.val ≤ 'Z'.val) := by
      rintro ⟨-, hle⟩
      rw [hlower, UInt32.le_iff_toNat_le, UInt32.toNat_add] at hle
      change (c.val.toNat + 32) % 4294967296 ≤ 90 at hle
      omega
    generalize c.toLower = lower at hnot
    exact dif_neg hnot
  · have hsame : c.toLower = c := dif_neg hupper
    rw [hsame, hsame]

section Numbers

/-- Digits of a base are worth less than a one with as many zeros. -/
theorem valueIn?_lt {base value : Nat} {digits : List Char}
    (h : valueIn? base digits = some value) : value < base ^ digits.length := by
  suffices ∀ n bound, n < bound →
      digits.foldlM (fun n c => ((Json.hexDigit? c).filter (· < base)).map (n * base + ·)) n =
        some value → value < bound * base ^ digits.length by
    simpa using this 0 1 Nat.one_pos h
  clear h
  induction digits with
  | nil =>
      intro n bound hn h
      cases h
      simpa using hn
  | cons c digits ih =>
      intro n bound hn h
      obtain ⟨next, hnext, hrest⟩ := Option.bind_eq_some_iff.mp h
      obtain ⟨digit, hdigit, rfl⟩ := Option.map_eq_some_iff.mp hnext
      have hsmall : digit < base := by simpa using (Option.filter_eq_some_iff.mp hdigit).2
      have hbound : n * base + digit < bound * base := calc
        n * base + digit < (n + 1) * base := by rw [Nat.succ_mul]; omega
        _ ≤ bound * base := Nat.mul_le_mul_right base hn
      rw [List.length_cons, Nat.pow_succ', ← Nat.mul_assoc]
      exact ih _ _ hbound hrest

/-- A numeral in a base stands for its number. -/
theorem valueIn?_toDigits {base : Nat} (hbase : 1 < base) (hsmall : base ≤ 16) (n : Nat) :
    valueIn? base (Nat.toDigits base n) = some n := by
  have hdigit {d : Nat} (hd : d < base) :
      ((Json.hexDigit? (Nat.digitChar d)).filter (· < base)) = some d := by
    rw [Json.hexDigit?_digitChar (by omega)]
    simpa using hd
  induction n using Nat.strongRecOn with
  | _ n ih =>
      by_cases hn : n < base
      · rw [Nat.toDigits_of_lt_base hn, valueIn?, List.foldlM_cons, hdigit hn]
        simp
      · have hlow : n % base < base := Nat.mod_lt _ (by omega)
        have hhigh := ih (n / base) (Nat.div_lt_self (by omega) hbase)
        rw [valueIn?] at hhigh
        rw [Nat.toDigits_of_base_le hbase (by omega), valueIn?, List.foldlM_append, hhigh]
        simp only [bind, Option.bind, List.foldlM_cons, hdigit hlow, Option.map_some,
          List.foldlM_nil, pure]
        rw [Nat.mul_comm, Nat.div_add_mod]

theorem exists_digit_of_mem_toDigits {base : Nat} (hbase : 1 < base) {n : Nat} {c : Char}
    (h : c ∈ Nat.toDigits base n) : ∃ digit < base, c = Nat.digitChar digit := by
  induction n using Nat.strongRecOn with
  | _ n ih =>
      by_cases hn : n < base
      · rw [Nat.toDigits_of_lt_base hn, List.mem_singleton] at h
        exact ⟨n, hn, h⟩
      · rw [Nat.toDigits_of_base_le hbase (by omega), List.mem_append, List.mem_singleton] at h
        rcases h with h | h
        · exact ih (n / base) (Nat.div_lt_self (by omega) hbase) h
        · exact ⟨n % base, Nat.mod_lt _ (by omega), h⟩

/-- Whatever reading one part guarantees holds of every part that was read. -/
theorem forall_mem_of_mapM {α β : Type} {read : α → Option β} {P : β → Prop}
    (hread : ∀ {a b}, read a = some b → P b) {parts : List α} {values : List β}
    (h : parts.mapM read = some values) :
    values.length = parts.length ∧ ∀ value ∈ values, P value := by
  induction parts generalizing values with
  | nil =>
      cases h
      exact ⟨rfl, List.forall_mem_nil _⟩
  | cons part parts ih =>
      rw [List.mapM_cons] at h
      obtain ⟨value, hvalue, h⟩ := Option.bind_eq_some_iff.mp h
      obtain ⟨rest, hrest, h⟩ := Option.bind_eq_some_iff.mp h
      cases h
      obtain ⟨hlength, hall⟩ := ih hrest
      exact ⟨congrArg (· + 1) hlength, List.forall_mem_cons.mpr ⟨hread hvalue, hall⟩⟩

/-- Parts that are read as what they were made of. -/
theorem mapM_map {α β : Type} {read : β → Option α} {write : α → β} {values : List α}
    (h : ∀ value ∈ values, read (write value) = some value) :
    (values.map write).mapM read = some values := by
  induction values with
  | nil => rfl
  | cons value values ih =>
      obtain ⟨hvalue, hvalues⟩ := List.forall_mem_cons.mp h
      rw [List.map_cons, List.mapM_cons, hvalue, ih hvalues]
      rfl

/-- Numbers as they are written in a base, with a sign between them. -/
def spelled (sign : Char) (base : Nat) (numbers : List Nat) : List Char :=
  [sign].intercalate (numbers.map (Nat.toDigits base))

theorem spelled_singleton (sign : Char) (base n : Nat) :
    spelled sign base [n] = Nat.toDigits base n :=
  List.intercalate_singleton

theorem spelled_cons_cons (sign : Char) (base n next : Nat) (numbers : List Nat) :
    spelled sign base (n :: next :: numbers) =
      Nat.toDigits base n ++ sign :: spelled sign base (next :: numbers) := by
  rw [spelled, List.map_cons, List.map_cons, List.intercalate_cons_cons, List.append_assoc]
  rfl

theorem mem_spelled {sign : Char} {base : Nat} (hbase : 1 < base) {numbers : List Nat} {c : Char}
    (h : c ∈ spelled sign base numbers) : c = sign ∨ ∃ digit < base, c = Nat.digitChar digit := by
  rcases mem_intercalate h with h | ⟨part, hpart, hc⟩
  · exact .inl h
  · obtain ⟨n, -, rfl⟩ := List.mem_map.mp hpart
    exact .inr (exists_digit_of_mem_toDigits hbase hc)

theorem splitOn_spelled {sign : Char} {base : Nat} (hsign : ∀ n, sign ∉ Nat.toDigits base n)
    {numbers : List Nat} (hne : numbers ≠ []) :
    (spelled sign base numbers).splitOn sign = numbers.map (Nat.toDigits base) :=
  List.splitOn_intercalate sign (by
    intro part hpart
    obtain ⟨n, -, rfl⟩ := List.mem_map.mp hpart
    exact hsign n) (by simpa using hne)

theorem toList_intercalate_spelled {sign : String} {c : Char} (hsign : sign.toList = [c])
    {base : Nat} {write : Nat → String} (hwrite : ∀ n, (write n).toList = Nat.toDigits base n)
    (numbers : List Nat) :
    (sign.intercalate (numbers.map write)).toList = spelled c base numbers := by
  rw [String.toList_intercalate, hsign, spelled, List.map_map]
  exact congrArg _ (List.map_congr_left fun n _ => hwrite n)

end Numbers

section IPv4

/-- Bytes put together are less than what they have room for. -/
theorem foldl_bytes_lt {bytes : List Nat} (h : ∀ byte ∈ bytes, byte < 256) :
    bytes.foldl (fun n part => n * 256 + part) 0 < 256 ^ bytes.length := by
  suffices ∀ n bound, n < bound →
      bytes.foldl (fun n part => n * 256 + part) n < bound * 256 ^ bytes.length by
    simpa using this 0 1 Nat.one_pos
  induction bytes with
  | nil =>
      intro n bound hn
      simpa using hn
  | cons byte bytes ih =>
      intro n bound hn
      obtain ⟨hbyte, hbytes⟩ := List.forall_mem_cons.mp h
      rw [List.foldl_cons, List.length_cons, Nat.pow_succ', ← Nat.mul_assoc]
      exact ih hbytes _ _ (by omega)

/-- Bytes and a last part that has the room of all further bytes make an address. -/
theorem foldl_bytes_add_lt {bytes : List Nat} {last room : Nat}
    (hbytes : ∀ byte ∈ bytes, byte < 256) (hroom : bytes.length + room = 4)
    (hlast : last < 256 ^ room) :
    bytes.foldl (fun n part => n * 256 + part) 0 * 256 ^ room + last < 0x100000000 := by
  have hhigh := foldl_bytes_lt hbytes
  generalize bytes.foldl (fun n part => n * 256 + part) 0 = high at hhigh
  calc
    high * 256 ^ room + last < (high + 1) * 256 ^ room := by rw [Nat.succ_mul]; omega
    _ ≤ 256 ^ bytes.length * 256 ^ room := Nat.mul_le_mul_right _ hhigh
    _ = 0x100000000 := by rw [← Nat.pow_add, hroom]

theorem parseIPv4_lt {text : List Char} {address : Nat} (h : parseIPv4 text = .ok address) :
    address < 0x100000000 := by
  simp only [parseIPv4] at h
  generalize (if (text.splitOn '.').getLast? = some [] then (text.splitOn '.').dropLast
    else text.splitOn '.') = parts at h
  split at h
  · next numbers hnumbers =>
    have hcount : numbers.length = parts.length :=
      (forall_mem_of_mapM (P := fun _ => True) (fun _ => True.intro) hnumbers).1
    split at h
    · next last others hreverse =>
      have hothers : numbers.length = others.length + 1 := by
        simpa using congrArg List.length hreverse
      split at h
      · next hfits =>
        cases h
        simp only [Bool.and_eq_true, decide_eq_true_eq, List.all_eq_true] at hfits
        obtain ⟨⟨hlength, hbytes⟩, hlast⟩ := hfits
        have hsmall : ∀ byte ∈ others.reverse, byte < 256 := fun byte hbyte =>
          hbytes byte (List.mem_reverse.mp hbyte)
        exact foldl_bytes_add_lt hsmall (by rw [List.length_reverse]; omega) hlast
      · cases h
    · cases h
  · cases h

theorem ipv4Number?_toDigits (n : Nat) : ipv4Number? (Nat.toDigits 10 n) = some n := by
  have hvalue : valueIn? 10 (Nat.toDigits 10 n) = some n :=
    valueIn?_toDigits (by decide) (by decide) n
  rcases Nat.eq_zero_or_pos n with rfl | hpos
  · rfl
  · have hhead := Json.head?_toDigits hpos
    generalize Nat.toDigits 10 n = digits at hvalue hhead
    fun_cases ipv4Number? digits with
    | case1 =>
        cases hvalue
        exact absurd hpos (Nat.lt_irrefl 0)
    | case2 | case3 | case4 | case5 => simp at hhead
    | case6 => exact hvalue

/-- The bytes of an address, the highest first. -/
def bytesOf (address : Nat) : List Nat := [3, 2, 1, 0].map fun i => address / Nat.pow 256 i % 256

theorem dot_notMem_toDigits (n : Nat) : '.' ∉ Nat.toDigits 10 n := fun h =>
  absurd (Nat.isDigit_of_mem_toDigits (by decide) (by decide) h) (by decide)

theorem splitOn_bytesOf (address : Nat) :
    (spelled '.' 10 (bytesOf address)).splitOn '.' = (bytesOf address).map (Nat.toDigits 10) :=
  splitOn_spelled dot_notMem_toDigits (List.cons_ne_nil _ _)

theorem parseIPv4_spelled {address : Nat} (h : address < 0x100000000) :
    parseIPv4 (spelled '.' 10 (bytesOf address)) = .ok address := by
  have hbyte (i : Nat) : address / Nat.pow 256 i % 256 < 256 := Nat.mod_lt _ (by decide)
  have hmapM : ((bytesOf address).map (Nat.toDigits 10)).mapM ipv4Number? =
      some (bytesOf address) := mapM_map fun byte _ => ipv4Number?_toDigits byte
  have hlast : ((bytesOf address).map (Nat.toDigits 10)).getLast? ≠ some [] := by
    simp [bytesOf]
  simp only [parseIPv4, splitOn_bytesOf, if_neg hlast, hmapM]
  simp only [bytesOf, List.map_cons, List.map_nil, List.reverse_cons, List.reverse_nil,
    List.nil_append, List.cons_append, List.length_cons, List.length_nil, List.all_cons,
    List.all_nil, hbyte, decide_true, Bool.and_true, List.foldl_cons, List.foldl_nil]
  rw [if_pos (by decide)]
  change Except.ok ((((0 * 256 + address / 16777216 % 256) * 256 + address / 65536 % 256) * 256 +
    address / 256 % 256) * 256 + address / 1 % 256) = Except.ok address
  exact congrArg Except.ok (by omega)

theorem isPlain_of_mem_spelled {bytes : List Nat} {c : Char} (h : c ∈ spelled '.' 10 bytes) :
    isForbidden c = false ∧ c.toLower = c := by
  rcases mem_spelled (by decide) h with rfl | ⟨digit, hdigit, rfl⟩
  · decide
  · exact (by decide : ∀ digit < 10, isForbidden (Nat.digitChar digit) = false ∧
      (Nat.digitChar digit).toLower = Nat.digitChar digit) digit hdigit

theorem isName_spelled (address : Nat) :
    Domain.isName (spelled '.' 10 (bytesOf address)) = true := by
  rw [Domain.isName, splitOn_bytesOf, List.all_eq_true]
  intro label hlabel
  obtain ⟨byte, -, rfl⟩ := List.mem_map.mp hlabel
  have hmark : 'x' ∉ Nat.toDigits 10 byte := fun h =>
    absurd (Nat.isDigit_of_mem_toDigits (by decide) (by decide) h) (by decide)
  generalize Nat.toDigits 10 byte = digits at hmark
  cases digits with
  | nil => rfl
  | cons c digits =>
      have hc : ('x' == c) = false := beq_false_of_ne (List.ne_of_not_mem_cons hmark)
      rw [Domain.spellingMark, List.isPrefixOf_cons_cons, hc]
      rfl

theorem endsInNumber_spelled (address : Nat) :
    endsInNumber (spelled '.' 10 (bytesOf address)) = true := by
  have hne : Nat.toDigits 10 (address / Nat.pow 256 0 % 256) ≠ [] := by simp
  rw [endsInNumber, splitOn_bytesOf]
  simp only [bytesOf, List.map_cons, List.map_nil, List.reverse_cons, List.reverse_nil,
    List.nil_append, List.cons_append]
  split
  · next heq => exact absurd (List.cons.inj heq).1 hne
  · next heq =>
    obtain ⟨rfl, -⟩ := List.cons.inj heq
    rw [ipv4Number?_toDigits, Option.isSome_some, Bool.or_true]
  · next heq => cases heq

end IPv4

section IPv6

theorem piece?_lt {part : List Char} {piece : Nat} (h : piece? part = some piece) :
    piece < 0x10000 := by
  rw [piece?] at h
  split at h
  · cases h
  · next hlength =>
    simp only [Bool.or_eq_true, decide_eq_true_eq, not_or, Nat.not_lt] at hlength
    exact Nat.lt_of_lt_of_le (valueIn?_lt h)
      (Nat.pow_le_pow_right (by decide) hlength.2)

theorem piece?_toDigits {piece : Nat} (h : piece < 0x10000) :
    piece? (Nat.toDigits 16 piece) = some piece := by
  have hlength : (Nat.toDigits 16 piece).length ≤ 4 :=
    (Nat.length_toDigits_le_iff (by decide) (by decide)).mpr h
  have hnotNil : (Nat.toDigits 16 piece).isEmpty = false := by simp
  rw [piece?, hnotNil, if_neg (by simpa using hlength)]
  exact valueIn?_toDigits (by decide) (by decide) piece

theorem parseDotted_lt {text : List Char} {pieces : List Nat}
    (h : parseDotted text = some pieces) : ∀ piece ∈ pieces, piece < 0x10000 := by
  obtain ⟨bytes, hbytes, h⟩ := Option.bind_eq_some_iff.mp h
  obtain ⟨-, hsmall⟩ := forall_mem_of_mapM (P := (· < 256)) (by
    intro part byte hbyte
    split at hbyte
    · cases hbyte
    · simpa using (Option.filter_eq_some_iff.mp hbyte).2) hbytes
  match bytes, h with
  | [a, b, c, d], h =>
    cases h
    simp only [List.forall_mem_cons] at hsmall
    exact List.forall_mem_cons.mpr
      ⟨by omega, List.forall_mem_cons.mpr ⟨by omega, List.forall_mem_nil _⟩⟩

theorem parsePieces_lt {text : List Char} {pieces : List Nat}
    (h : parsePieces text = some pieces) : ∀ piece ∈ pieces, piece < 0x10000 := by
  simp only [parsePieces] at h
  split at h
  · split at h
    · obtain ⟨front, hfront, h⟩ := Option.bind_eq_some_iff.mp h
      obtain ⟨back, hback, h⟩ := Option.bind_eq_some_iff.mp h
      cases h
      exact List.forall_mem_append.mpr
        ⟨(forall_mem_of_mapM piece?_lt hfront).2, parseDotted_lt hback⟩
    · exact (forall_mem_of_mapM piece?_lt h).2
  · cases h

theorem parseSide_lt {text : List Char} {pieces : List Nat}
    (h : parseSide text = some pieces) : ∀ piece ∈ pieces, piece < 0x10000 := by
  rw [parseSide] at h
  split at h
  · cases h
    exact List.forall_mem_nil _
  · exact parsePieces_lt h

theorem parseIPv6_wellFormed {text : List Char} {pieces : List Nat}
    (h : parseIPv6 text = .ok pieces) : (ipv6 pieces).WellFormed := by
  rw [parseIPv6] at h
  split at h
  · split at h
    · next high low hhigh hlow =>
      split at h
      · next hfits =>
        cases h
        simp only [Bool.and_eq_true, decide_eq_true_eq] at hfits
        refine ⟨by simp only [List.length_append, List.length_replicate]; omega, ?_⟩
        simp only [List.forall_mem_append, List.mem_replicate]
        exact ⟨⟨parseSide_lt hhigh, by omega⟩, parseSide_lt hlow⟩
      · cases h
    · cases h
  · split at h
    · next found hfound =>
      split at h
      · next hlength =>
        cases h
        exact ⟨hlength, parsePieces_lt hfound⟩
      · cases h
    · cases h

theorem colon_notMem_toDigits (piece : Nat) : ':' ∉ Nat.toDigits 16 piece := by
  intro h
  obtain ⟨digit, hdigit, hc⟩ := exists_digit_of_mem_toDigits (by decide) h
  exact absurd hc.symm ((by decide : ∀ d < 16, Nat.digitChar d ≠ ':') digit hdigit)

theorem dot_notMem_spelled (pieces : List Nat) : '.' ∉ spelled ':' 16 pieces := by
  intro h
  rcases mem_spelled (by decide) h with h | ⟨digit, hdigit, hc⟩
  · exact absurd h (by decide)
  · exact absurd hc.symm ((by decide : ∀ d < 16, Nat.digitChar d ≠ '.') digit hdigit)

theorem parsePieces_spelled {pieces : List Nat} (hne : pieces ≠ [])
    (h : ∀ piece ∈ pieces, piece < 0x10000) :
    parsePieces (spelled ':' 16 pieces) = some pieces := by
  simp only [parsePieces, splitOn_spelled colon_notMem_toDigits hne]
  split
  · next last others hreverse =>
    have hlast : last ∈ pieces.map (Nat.toDigits 16) := by
      rw [← List.mem_reverse, hreverse]
      exact List.mem_cons_self
    obtain ⟨piece, hpiece, rfl⟩ := List.mem_map.mp hlast
    have hdot : '.' ∉ Nat.toDigits 16 piece :=
      spelled_singleton ':' 16 piece ▸ dot_notMem_spelled [piece]
    rw [if_neg (by simpa using hdot)]
    exact mapM_map fun piece hpiece => piece?_toDigits (h piece hpiece)
  · next hreverse => exact absurd hreverse (by simpa using hne)

theorem parseSide_spelled {pieces : List Nat} (h : ∀ piece ∈ pieces, piece < 0x10000) :
    parseSide (spelled ':' 16 pieces) = some pieces := by
  rcases pieces with _ | ⟨piece, pieces⟩
  · rfl
  · have hne : (spelled ':' 16 (piece :: pieces)).isEmpty = false := by
      cases pieces <;> simp [spelled_singleton, spelled_cons_cons]
    rw [parseSide, hne, if_neg Bool.false_ne_true]
    exact parsePieces_spelled (List.cons_ne_nil _ _) h

theorem splitAtGap_append {front : List Char} (h : ':' ∉ front) (back : List Char) :
    splitAtGap (front ++ back) =
      (splitAtGap back).map fun sides => (front ++ sides.1, sides.2) := by
  induction front with
  | nil => simp
  | cons c front ih =>
      obtain ⟨hc, hfront⟩ := not_or.mp (mt List.mem_cons.mpr h)
      rw [List.cons_append, splitAtGap.eq_def]
      split
      · next heq => exact absurd (List.cons.inj heq).1 (Ne.symm hc)
      · next heq =>
        obtain ⟨rfl, rfl⟩ := List.cons.inj heq
        rw [ih hfront, Option.map_map]
        rfl
      · next heq => cases heq

theorem head?_spelled_append (piece : Nat) (pieces : List Nat) (back : List Char) :
    (spelled ':' 16 (piece :: pieces) ++ back).head? ≠ some ':' := by
  have hne : Nat.toDigits 16 piece ≠ [] := by simp
  obtain ⟨c, digits, hdigits⟩ := List.exists_cons_of_ne_nil hne
  have hc : c ≠ ':' := by
    rintro rfl
    exact colon_notMem_toDigits piece (hdigits ▸ List.mem_cons_self)
  cases pieces with
  | nil => simpa [spelled_singleton, hdigits] using hc
  | cons next pieces => simpa [spelled_cons_cons, hdigits] using hc

/-- One colon alone is no gap. -/
theorem splitAtGap_colon {rest : List Char} (h : rest.head? ≠ some ':') :
    splitAtGap (':' :: rest) =
      (splitAtGap rest).map fun sides => (':' :: sides.1, sides.2) := by
  rw [splitAtGap.eq_def]
  split
  · next heq =>
    obtain ⟨-, rfl⟩ := List.cons.inj heq
    exact absurd rfl h
  · next heq =>
    obtain ⟨rfl, rfl⟩ := List.cons.inj heq
    rfl
  · next heq => cases heq

/-- No double colon is found before the end of written pieces. -/
theorem splitAtGap_spelled_append (pieces : List Nat) (back : List Char) :
    splitAtGap (spelled ':' 16 pieces ++ back) =
      (splitAtGap back).map fun sides => (spelled ':' 16 pieces ++ sides.1, sides.2) := by
  induction pieces with
  | nil => exact splitAtGap_append List.not_mem_nil back
  | cons piece pieces ih =>
      cases pieces with
      | nil =>
          rw [spelled_singleton]
          exact splitAtGap_append (colon_notMem_toDigits piece) back
      | cons next pieces =>
          rw [spelled_cons_cons, List.append_assoc, List.cons_append,
            splitAtGap_append (colon_notMem_toDigits piece),
            splitAtGap_colon (head?_spelled_append next pieces back), ih]
          simp only [Option.map_map, Function.comp_def, List.append_assoc, List.cons_append]

theorem longestGap_eq_some {pieces : List Nat} {gap : Nat × Nat}
    (h : longestGap pieces = some gap) :
    2 ≤ gap.2 ∧ gap.2 = ((pieces.drop gap.1).takeWhile (· == 0)).length := by
  refine List.foldlRecOn (motive := fun best => ∀ gap : Nat × Nat, best = some gap →
    2 ≤ gap.2 ∧ gap.2 = ((pieces.drop gap.1).takeWhile (· == 0)).length) _ _ ?_ ?_ gap h
  · rintro gap ⟨⟩
  intro best hbest run hrun gap hgap
  obtain ⟨start, -, rfl⟩ := List.mem_map.mp hrun
  split at hgap
  · exact hbest gap hgap
  · next hlong =>
    have hrunAt := Nat.not_lt.mp hlong
    split at hgap
    · split at hgap
      · cases hgap
        exact ⟨hrunAt, rfl⟩
      · exact hbest gap hgap
    · cases hgap
      exact ⟨hrunAt, rfl⟩

/-- What a double colon stands for is put back. -/
theorem take_gap_drop {pieces : List Nat} {start length : Nat}
    (h : length = ((pieces.drop start).takeWhile (· == 0)).length) :
    pieces.take start ++ List.replicate length 0 ++ pieces.drop (start + length) = pieces := by
  have hzeros : List.replicate length 0 = (pieces.drop start).takeWhile (· == 0) := by
    rw [h]
    exact (List.eq_replicate_of_mem fun piece hpiece => by
      simpa using List.all_eq_true.mp List.all_takeWhile piece hpiece).symm
  have hrest : pieces.drop (start + length) = (pieces.drop start).dropWhile (· == 0) := by
    have hsplit := @List.takeWhile_append_dropWhile _ (· == 0) (pieces.drop start)
    rw [← List.drop_drop, h]
    nth_rewrite 2 [← hsplit]
    exact List.drop_left
  rw [hzeros, hrest, List.append_assoc, List.takeWhile_append_dropWhile, List.take_append_drop]

theorem parseIPv6_spelled {pieces : List Nat} (h : (ipv6 pieces).WellFormed) :
    parseIPv6 (spelled ':' 16 pieces) = .ok pieces := by
  obtain ⟨hlength, hsmall⟩ := h
  have hgap : splitAtGap (spelled ':' 16 pieces) = none := by
    simpa [splitAtGap] using splitAtGap_spelled_append pieces []
  have hread := parsePieces_spelled (by rintro rfl; cases hlength) hsmall
  rw [parseIPv6, hgap, hread]
  exact if_pos hlength

theorem parseIPv6_gap {pieces : List Nat} (h : (ipv6 pieces).WellFormed) {start length : Nat}
    (hgap : longestGap pieces = some (start, length)) :
    parseIPv6 (spelled ':' 16 (pieces.take start) ++
      ':' :: ':' :: spelled ':' 16 (pieces.drop (start + length))) = .ok pieces := by
  obtain ⟨hlength, hsmall⟩ := h
  obtain ⟨hlong, hzeros⟩ := longestGap_eq_some hgap
  dsimp only at hlong hzeros
  have hwhole := take_gap_drop hzeros
  have hhigh : parseSide (spelled ':' 16 (pieces.take start)) = some (pieces.take start) :=
    parseSide_spelled fun piece hpiece => hsmall piece (List.mem_of_mem_take hpiece)
  have hlow : parseSide (spelled ':' 16 (pieces.drop (start + length))) =
      some (pieces.drop (start + length)) :=
    parseSide_spelled fun piece hpiece => hsmall piece (List.mem_of_mem_drop hpiece)
  have hdot : (spelled ':' 16 (pieces.take start)).contains '.' = false := by
    simpa using dot_notMem_spelled (pieces.take start)
  have hsides := congrArg List.length hwhole
  simp only [List.length_append, List.length_replicate, hlength] at hsides
  have hzeroCount : 8 - (pieces.take start).length - (pieces.drop (start + length)).length =
      length := by omega
  have hfits : (pieces.take start).length + (pieces.drop (start + length)).length < 8 := by omega
  rw [parseIPv6, splitAtGap_spelled_append]
  simp only [splitAtGap, Option.map_some, List.append_nil, hhigh, hlow, hdot, Bool.not_false,
    Bool.true_and, decide_eq_true hfits, if_true, hzeroCount, hwhole]

end IPv6

theorem parseBracketed_wellFormed {text : List Char} {host : UrlHost}
    (h : parseBracketed text = .ok host) : host.WellFormed := by
  rw [parseBracketed] at h
  split at h
  · generalize hread : parseIPv6 text.dropLast = read at h
    cases read with
    | error fault => cases h
    | ok pieces =>
        cases h
        exact parseIPv6_wellFormed hread
  · cases h

/-- What is read as a host is in the one form. -/
theorem parse_wellFormed {text : List Char} {host : UrlHost} (h : parse text = .ok host) :
    host.WellFormed := by
  rw [parse.eq_def] at h
  split at h
  · exact parseBracketed_wellFormed h
  · split at h
    · cases h
    · next decoded _ =>
      dsimp only at h
      split at h
      · cases h
      · next hplain =>
        simp only [Bool.or_eq_true, List.any_eq_true, Bool.not_eq_true', not_or, not_exists,
          not_and, Bool.not_eq_true, Bool.not_eq_false] at hplain
        split at h
        · cases h
        · next hne =>
          split at h
          · generalize hread : parseIPv4 (decoded.toList.map Char.toLower) = read at h
            cases read with
            | error fault => cases h
            | ok address =>
                cases h
                exact parseIPv4_lt hread
          · next hnumber =>
            cases h
            rw [WellFormed, String.toList_ofList]
            refine ⟨by simpa using hne, fun c hc => ⟨hplain.1 c hc, ?_⟩, hplain.2,
              by simpa using hnumber⟩
            obtain ⟨original, -, rfl⟩ := List.mem_map.mp hc
            exact toLower_toLower original

/-- Characters that a name can hold are read as they are. -/
theorem parse_of_plain {text : List Char} (hne : text ≠ [])
    (hplain : ∀ c ∈ text, isForbidden c = false ∧ c.toLower = c)
    (hname : Domain.isName text = true) :
    parse text =
      if endsInNumber text then ipv4 <$> parseIPv4 text else .ok (name (String.ofList text)) := by
  have hlower : text.map Char.toLower = text :=
    (List.map_congr_left fun c hc => (hplain c hc).2).trans (List.map_id text)
  have hpercent : '%' ∉ text := fun h => absurd (hplain _ h).1 (by decide)
  have hforbidden : text.any isForbidden = false :=
    List.any_eq_false.mpr fun c hc => by simp [(hplain c hc).1]
  rw [parse.eq_def]
  split
  · exact absurd (hplain _ List.mem_cons_self).1 (by decide)
  · rw [Percent.decode_encode_of_notMem hpercent, Text.decode_encode]
    simp only [String.toList_ofList, hlower, hforbidden, hname, Bool.not_true, Bool.or_self,
      Bool.false_eq_true, if_false, List.isEmpty_eq_false_iff.mpr hne]

theorem parse_bracketed {text : List Char} {pieces : List Nat} (h : parseIPv6 text = .ok pieces) :
    parse ('[' :: text ++ [']']) = .ok (ipv6 pieces) := by
  change parseBracketed (text ++ [']']) = _
  rw [parseBracketed, List.getLast?_concat, if_pos rfl, List.dropLast_concat, h]
  rfl

theorem toList_text_ipv4 (address : Nat) :
    (ipv4 address).text.toList = spelled '.' 10 (bytesOf address) := by
  have htext : (ipv4 address).text = ".".intercalate ((bytesOf address).map toString) := by
    rw [text, bytesOf, List.map_map]
    rfl
  rw [htext]
  exact toList_intercalate_spelled rfl (fun n => Nat.toList_repr) _

theorem toList_text_ipv6 (pieces : List Nat) :
    (ipv6 pieces).text.toList = '[' :: (match longestGap pieces with
      | some (start, length) => spelled ':' 16 (pieces.take start) ++
          ':' :: ':' :: spelled ':' 16 (pieces.drop (start + length))
      | none => spelled ':' 16 pieces) ++ [']'] := by
  have hpieces (pieces : List Nat) :
      (":".intercalate (pieces.map Text.hex)).toList = spelled ':' 16 pieces :=
    toList_intercalate_spelled rfl (fun n => String.toList_ofList) pieces
  simp only [text]
  cases longestGap pieces with
  | none => simp [hpieces]
  | some gap =>
      simp only [String.toList_append, hpieces]
      simp

/-- An IPv6 address is written in colons and digits between brackets. -/
theorem exists_text_ipv6 (pieces : List Nat) :
    ∃ inner, (ipv6 pieces).text.toList = '[' :: inner ++ [']'] ∧
      ∀ c ∈ inner, c = ':' ∨ ∃ digit < 16, c = Nat.digitChar digit := by
  refine ⟨_, toList_text_ipv6 pieces, ?_⟩
  intro c hc
  split at hc
  · rw [List.mem_append, List.mem_cons, List.mem_cons] at hc
    rcases hc with hc | hc | hc | hc
    · exact mem_spelled (by decide) hc
    · exact .inl hc
    · exact .inl hc
    · exact mem_spelled (by decide) hc
  · exact mem_spelled (by decide) hc

theorem text_ne_nil {host : UrlHost} (h : host.WellFormed) : host.text.toList ≠ [] := by
  cases host with
  | name text => exact h.1
  | ipv4 address =>
      rw [toList_text_ipv4]
      simp [bytesOf, spelled_cons_cons]
  | ipv6 pieces =>
      rw [toList_text_ipv6]
      exact List.cons_ne_nil _ _

/-- The text of a host in the one form is read as that host. -/
theorem parse_text {host : UrlHost} (h : host.WellFormed) : parse host.text.toList = .ok host := by
  cases host with
  | name text =>
      obtain ⟨hne, hplain, hname, hnumber⟩ := h
      rw [UrlHost.text, parse_of_plain hne hplain hname, hnumber, if_neg Bool.false_ne_true,
        String.ofList_toList]
  | ipv4 address =>
      have hne : spelled '.' 10 (bytesOf address) ≠ [] := toList_text_ipv4 address ▸ text_ne_nil h
      rw [toList_text_ipv4,
        parse_of_plain hne (fun c hc => isPlain_of_mem_spelled hc) (isName_spelled address),
        endsInNumber_spelled, if_pos rfl, parseIPv4_spelled h]
      rfl
  | ipv6 pieces =>
      rw [toList_text_ipv6]
      refine parse_bracketed ?_
      split
      · next hgap => exact parseIPv6_gap h hgap
      · exact parseIPv6_spelled h

end BrowserBridge.UrlHost
