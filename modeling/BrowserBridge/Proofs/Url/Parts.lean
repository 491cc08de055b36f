import BrowserBridge.Proofs.List.Split
import BrowserBridge.Proofs.Url.Host
import BrowserBridge.Url.Basic

/-!
The parts of an address.  For each part, what is read is of one form, and what is written in
that form is read as it stands, with what follows it left over.
-/

namespace BrowserBridge

open Percent

namespace Url

section UserInfo

/-- User name and password as they are written: without a password no colon stands behind the
user name. -/
def IsUserInfo (info : List Char) : Prop :=
  ∃ user password, (∀ c ∈ user ++ password, inUserInfo c = false) ∧
    info = user ++ (if password.isEmpty then [] else ':' :: password)

theorem isUserInfo_nil : IsUserInfo [] := ⟨[], [], List.forall_mem_nil _, rfl⟩

theorem isUserInfo_writeUserInfo (text : List Char) : IsUserInfo (writeUserInfo text) := by
  refine ⟨_, _, ?_, rfl⟩
  intro c hc
  rcases List.mem_append.mp hc with hc | hc <;> exact not_of_mem_encode isRemovable_inUserInfo hc

theorem writeUserInfo_eq_self {info : List Char} (h : IsUserInfo info) :
    writeUserInfo info = info := by
  obtain ⟨user, password, hplain, rfl⟩ := h
  obtain ⟨huser, hpassword⟩ := List.forall_mem_append.mp hplain
  have hcolon : ∀ c ∈ user, decide (c ≠ ':') = true := fun c hc => by
    rw [decide_eq_true_eq]
    rintro rfl
    exact absurd (huser ':' hc) (by decide)
  cases password with
  | nil =>
      have hspan := span_append [] hcolon nofun
      rw [List.append_nil] at hspan
      simp only [List.isEmpty_nil, if_true, List.append_nil, writeUserInfo, hspan,
        encode_eq_self huser, List.drop_nil]
      exact List.append_nil user
  | cons c password =>
      have hspan := span_append (':' :: c :: password) hcolon (by rintro _ ⟨⟩; decide)
      simp only [List.isEmpty_cons, Bool.false_eq_true, if_false, writeUserInfo, hspan,
        encode_eq_self huser, List.drop_succ_cons, List.drop_zero, encode_eq_self hpassword]

theorem isUserInfo_of_takeUserInfo {text info rest : List Char}
    (h : takeUserInfo true text = .ok (info, rest)) : IsUserInfo info := by
  simp only [takeUserInfo] at h
  split at h
  · split at h
    · cases h
    · cases h
      exact isUserInfo_writeUserInfo _
  · cases h
    exact isUserInfo_nil

end UserInfo

section Path

/-- A segment of a path as it is written, once the dots are resolved. -/
structure IsSegment (segment : List Char) : Prop where
  written : ∀ c ∈ segment, inPath c = false ∧ c ≠ '/' ∧ c ≠ '\\'
  notDoubleDot : isDoubleDot segment = false
  notSingleDot : isSingleDot segment = false

theorem isSegment_nil : IsSegment [] := ⟨List.forall_mem_nil _, by decide, by decide⟩

theorem mem_of_mem_dropSegment {before : List (List Char)} {segment : List Char}
    (h : segment ∈ dropSegment before) : segment ∈ before := by
  cases before with
  | nil => exact h
  | cons last before =>
      rw [dropSegment] at h
      split at h
      · exact h
      · exact List.mem_cons_of_mem last h

theorem resolve_ne_nil {before segments : List (List Char)} (hne : segments ≠ []) :
    resolve before segments ≠ [] := by
  fun_induction resolve before segments <;> simp_all

theorem isSegment_of_mem_resolve {before segments : List (List Char)}
    (hbefore : ∀ segment ∈ before, IsSegment segment)
    (hsegments : ∀ segment ∈ segments, ∀ c ∈ segment, inPath c = false ∧ c ≠ '/' ∧ c ≠ '\\') :
    ∀ segment ∈ resolve before segments, IsSegment segment := by
  have hdropped {before : List (List Char)} (h : ∀ segment ∈ before, IsSegment segment) :
      ∀ segment ∈ dropSegment before, IsSegment segment :=
    fun segment hmem => h segment (mem_of_mem_dropSegment hmem)
  fun_induction resolve before segments with
  | case1 before => exact hbefore
  | case2 before last hdouble =>
      exact List.forall_mem_cons.mpr ⟨isSegment_nil, hdropped hbefore⟩
  | case3 before last hdouble hsingle =>
      exact List.forall_mem_cons.mpr ⟨isSegment_nil, hbefore⟩
  | case4 before last hdouble hsingle =>
      obtain ⟨hlast, -⟩ := List.forall_mem_cons.mp hsegments
      exact List.forall_mem_cons.mpr
        ⟨⟨hlast, by simpa using hdouble, by simpa using hsingle⟩, hbefore⟩
  | case5 before segment rest hrest hdouble ih =>
      exact ih (hdropped hbefore) (List.forall_mem_cons.mp hsegments).2
  | case6 before segment rest hrest hdouble hsingle ih =>
      exact ih hbefore (List.forall_mem_cons.mp hsegments).2
  | case7 before segment rest hrest hdouble hsingle ih =>
      obtain ⟨hsegment, hlater⟩ := List.forall_mem_cons.mp hsegments
      exact ih (List.forall_mem_cons.mpr
        ⟨⟨hsegment, by simpa using hdouble, by simpa using hsingle⟩, hbefore⟩) hlater

theorem resolve_eq_append {before segments : List (List Char)}
    (h : ∀ segment ∈ segments, IsSegment segment) :
    resolve before segments = segments.reverse ++ before := by
  induction segments generalizing before with
  | nil => rfl
  | cons segment rest ih =>
      obtain ⟨hsegment, hrest⟩ := List.forall_mem_cons.mp h
      cases rest with
      | nil => simp [resolve, hsegment.notDoubleDot, hsegment.notSingleDot]
      | cons next rest =>
          have hstep : resolve before (segment :: next :: rest) =
              resolve (segment :: before) (next :: rest) := by
            simp [resolve, hsegment.notDoubleDot, hsegment.notSingleDot]
          rw [hstep, ih hrest]
          simp only [List.reverse_cons, List.append_assoc, List.cons_append, List.nil_append]

/-- The characters of a path, without the slash that it begins with. -/
def pathChars (path : List String) : List Char := ['/'].intercalate (path.map String.toList)

theorem isSegment_of_takePath (text : List Char) : (takePath text).1 ≠ [] ∧
    ∀ segment ∈ (takePath text).1, IsSegment segment.toList := by
  simp only [takePath]
  generalize dropSlash (text.span fun c => c ≠ '?' && c ≠ '#').1 = path
  have hsegments : ∀ segment ∈ (path.splitOnP fun c => c = '/' || c = '\\').map (encode inPath),
      ∀ c ∈ segment, inPath c = false ∧ c ≠ '/' ∧ c ≠ '\\' := by
    intro segment hsegment c hc
    obtain ⟨part, hpart, rfl⟩ := List.mem_map.mp hsegment
    refine ⟨not_of_mem_encode isRemovable_inPath hc, ?_⟩
    rcases mem_encode hc with ⟨hplain, -⟩ | rfl | ⟨n, hn, rfl⟩
    · simpa using eq_false_of_mem_splitOnP hpart hplain
    · decide
    · exact (by decide : ∀ n < 16, hexDigit n ≠ '/' ∧ hexDigit n ≠ '\\') n hn
  have hresolved := isSegment_of_mem_resolve (List.forall_mem_nil _) hsegments
  constructor
  · have hsome : (path.splitOnP fun c => c = '/' || c = '\\').map (encode inPath) ≠ [] := by simp
    exact fun h => resolve_ne_nil hsome (by simpa using h)
  · intro segment hsegment
    obtain ⟨chars, hchars, rfl⟩ := List.mem_map.mp hsegment
    rw [String.toList_ofList]
    exact hresolved chars (List.mem_reverse.mp hchars)

theorem takePath_append {path : List String} {rest : List Char} (hne : path ≠ [])
    (hpath : ∀ segment ∈ path, IsSegment segment.toList)
    (hrest : ∀ c ∈ rest.head?, c = '?' ∨ c = '#') :
    takePath ('/' :: pathChars path ++ rest) = (path, rest) := by
  have hchars : ∀ c ∈ '/' :: pathChars path, (c ≠ '?' && c ≠ '#') = true := by
    intro c hc
    rcases List.mem_cons.mp hc with rfl | hc
    · decide
    · rcases mem_intercalate hc with rfl | ⟨part, hpart, hc⟩
      · decide
      · obtain ⟨segment, hsegment, rfl⟩ := List.mem_map.mp hpart
        have hplain := ((hpath segment hsegment).written c hc).1
        simp only [Bool.and_eq_true, decide_eq_true_eq]
        constructor <;> rintro rfl <;> exact absurd hplain (by decide)
  have hspan := span_append rest hchars (by
    intro c hc
    rcases hrest c hc with rfl | rfl <;> decide)
  have hsplit : (pathChars path).splitOnP (fun c => c = '/' || c = '\\') =
      path.map String.toList := by
    refine splitOnP_intercalate (by decide) (by simpa using hne) fun part hpart c hc => ?_
    obtain ⟨segment, hsegment, rfl⟩ := List.mem_map.mp hpart
    simpa using ((hpath segment hsegment).written c hc).2
  have hencoded : (path.map String.toList).map (encode inPath) = path.map String.toList := by
    rw [List.map_map]
    exact List.map_congr_left fun segment hsegment =>
      encode_eq_self fun c hc => ((hpath segment hsegment).written c hc).1
  have hresolved : resolve [] (path.map String.toList) = (path.map String.toList).reverse := by
    rw [resolve_eq_append, List.append_nil]
    intro segment hsegment
    obtain ⟨text, htext, rfl⟩ := List.mem_map.mp hsegment
    exact hpath text htext
  simp only [takePath, hspan]
  simp only [dropSlash, decide_true, Bool.true_or, if_true, hsplit, hencoded, hresolved,
    List.reverse_reverse, List.map_map, Function.comp_def, String.ofList_toList, List.map_id']

end Path

section Query

/-- The characters of a query and of a fragment, each with its sign. -/
def queryChars (query fragment : Option String) : List Char :=
  (match query with
    | some query => '?' :: query.toList
    | none => []) ++
  (match fragment with
    | some fragment => '#' :: fragment.toList
    | none => [])

theorem notInFragment_of_takeQuery {text : List Char} {fragment : String}
    (h : (takeQuery text).2 = some fragment) : ∀ c ∈ fragment.toList, inFragment c = false := by
  have hencoded {rest : List Char} :
      ∀ c ∈ (String.ofList (encode inFragment rest)).toList, inFragment c = false := by
    rw [String.toList_ofList]
    exact fun c hc => not_of_mem_encode isRemovable_inFragment hc
  simp only [takeQuery] at h
  split at h <;> split at h <;> cases h <;> exact hencoded

theorem notInQuery_of_takeQuery {text : List Char} {query : String}
    (h : (takeQuery text).1 = some query) : ∀ c ∈ query.toList, inQuery c = false := by
  simp only [takeQuery] at h
  split at h
  · cases h
    rw [String.toList_ofList]
    exact fun c hc => not_of_mem_encode isRemovable_inQuery hc
  · cases h

theorem takeQuery_queryChars {query fragment : Option String}
    (hquery : ∀ text ∈ query, ∀ c ∈ text.toList, inQuery c = false)
    (hfragment : ∀ text ∈ fragment, ∀ c ∈ text.toList, inFragment c = false) :
    takeQuery (queryChars query fragment) = (query, fragment) := by
  cases query with
  | none =>
      cases fragment with
      | none => rfl
      | some fragment =>
          simp [takeQuery, queryChars, encode_eq_self (hfragment fragment rfl)]
  | some query =>
      have hplain := hquery query rfl
      have hmark : ∀ c ∈ query.toList, decide (c ≠ '#') = true := fun c hc => by
        rw [decide_eq_true_eq]
        rintro rfl
        exact absurd (hplain '#' hc) (by decide)
      cases fragment with
      | none =>
          have hspan := span_append [] hmark nofun
          simp only [queryChars, List.cons_append, takeQuery, hspan, encode_eq_self hplain,
            String.ofList_toList]
      | some fragment =>
          have hspan := span_append ('#' :: fragment.toList) hmark (by rintro _ ⟨⟩; decide)
          simp only [queryChars, List.cons_append, takeQuery, hspan, encode_eq_self hplain,
            encode_eq_self (hfragment fragment rfl), String.ofList_toList]

end Query

section Authority

theorem takePort_le {text rest : List Char} {port : Nat}
    (h : takePort text = .ok (some port, rest)) : port ≤ 65535 := by
  simp only [takePort] at h
  split at h
  · cases h
  · next hfits =>
    split at h
    · split at h
      · cases h
      · cases h
        exact Nat.not_lt.mp hfits
    · cases h

theorem takePort_toDigits {port : Nat} (hport : port ≤ 65535) {rest : List Char}
    (hrest : ∀ c ∈ rest.head?, endsAuthority true c = true) :
    takePort (Nat.toDigits 10 port ++ rest) = .ok (some port, rest) := by
  have hdigits := Text.isDigit_toDigits port
  have hvalue : Text.digitsValue? (Nat.toDigits 10 port) = some port := by
    rw [Text.digitsValue?_of_isDigit hdigits, Nat.ofDigitChars_toDigits (by decide) (by decide)]
  have hspan := span_append rest hdigits fun c hc => by
    have hends := hrest c hc
    simp only [endsAuthority, Bool.true_and, Bool.or_eq_true, decide_eq_true_eq] at hends
    rcases hends with ((rfl | rfl) | rfl) | rfl <;> decide
  have hfollowed : (rest.head?.all fun c => endsAuthority true c) = true := by
    cases rest with
    | nil => rfl
    | cons c rest => exact hrest c rfl
  have hsome : (Nat.toDigits 10 port).isEmpty = false := by simp
  simp only [takePort, hspan, hvalue, Option.getD_some, hfollowed, hsome]
  rw [if_neg (Nat.not_lt.mpr hport)]
  rfl

/-- The characters of a port with the colon in front of it, if there is one. -/
def portChars : Option Nat → List Char
  | some port => ':' :: Nat.toDigits 10 port
  | none => []

theorem takeColonPort_le {text rest : List Char} {port : Nat}
    (h : takeColonPort text = .ok (some port, rest)) : port ≤ 65535 := by
  rw [takeColonPort.eq_def] at h
  split at h
  · exact takePort_le h
  · cases h

theorem takeColonPort_portChars {port : Option Nat} (hport : ∀ n ∈ port, n ≤ 65535)
    {rest : List Char} (hrest : ∀ c ∈ rest.head?, endsAuthority true c = true) :
    takeColonPort (portChars port ++ rest) = .ok (port, rest) := by
  cases port with
  | some n => exact takePort_toDigits (hport n rfl) hrest
  | none =>
      rw [portChars, List.nil_append, takeColonPort.eq_def]
      split
      · exact absurd (hrest ':' rfl) (by decide)
      · rfl

theorem endsAuthority_of_notForbidden {c : Char} (h : UrlHost.isForbidden c = false) :
    IsVisible c ∧ endsAuthority true c = false ∧ c ≠ '[' ∧ c ≠ ']' ∧ c ≠ ':' ∧ c ≠ '@' := by
  simp only [UrlHost.isForbidden, Bool.or_eq_false_iff, decide_eq_false_iff_not, Nat.not_le] at h
  obtain ⟨⟨hlow, hhigh⟩, hsign⟩ := h
  refine ⟨⟨hlow, hhigh⟩, ?_⟩
  simp only [endsAuthority, Bool.true_and, Bool.or_eq_false_iff, decide_eq_false_iff_not]
  simp only [List.contains_eq_mem, List.mem_cons, List.not_mem_nil, or_false,
    decide_eq_false_iff_not, not_or] at hsign
  tauto

theorem takeHost_append {inBrackets : Bool} {front : List Char}
    (h : ∀ c ∈ front, endsAuthority true c = false ∧ c ≠ '[' ∧ c ≠ ']' ∧
      (c = ':' → inBrackets = true)) (back : List Char) :
    takeHost true inBrackets (front ++ back) =
      (front ++ (takeHost true inBrackets back).1, (takeHost true inBrackets back).2) := by
  induction front with
  | nil => rfl
  | cons c front ih =>
      obtain ⟨⟨hends, hopen, hclose, hcolon⟩, hfront⟩ := List.forall_mem_cons.mp h
      have hgoes : ((decide (c = ':') && !inBrackets) || endsAuthority true c) = false := by
        rw [hends, Bool.or_false]
        cases inBrackets <;> simp_all
      have hbrackets : ((inBrackets || decide (c = '[')) && decide (c ≠ ']')) = inBrackets := by
        simp [hopen, hclose]
      rw [List.cons_append, takeHost, hgoes, if_neg Bool.false_ne_true, hbrackets, ih hfront]
      rfl

theorem takeHost_of_ends {rest : List Char}
    (hrest : ∀ c ∈ rest.head?, c = ':' ∨ endsAuthority true c = true) :
    takeHost true false rest = ([], rest) := by
  cases rest with
  | nil => rfl
  | cons c rest =>
      have hends : ((decide (c = ':') && !false) || endsAuthority true c) = true := by
        simpa using hrest c rfl
      rw [takeHost, if_pos hends]

theorem takeHost_of_notForbidden {front rest : List Char}
    (hfront : ∀ c ∈ front, UrlHost.isForbidden c = false)
    (hrest : ∀ c ∈ rest.head?, c = ':' ∨ endsAuthority true c = true) :
    takeHost true false (front ++ rest) = (front, rest) := by
  have hgoes : ∀ c ∈ front, endsAuthority true c = false ∧ c ≠ '[' ∧ c ≠ ']' ∧
      (c = ':' → false = true) := fun c hc =>
    have ⟨_, hends, hopen, hclose, hcolon, _⟩ := endsAuthority_of_notForbidden (hfront c hc)
    ⟨hends, hopen, hclose, fun h => absurd h hcolon⟩
  rw [takeHost_append hgoes, takeHost_of_ends hrest, List.append_nil]

theorem takeHost_text {host : UrlHost} (h : host.WellFormed) {rest : List Char}
    (hrest : ∀ c ∈ rest.head?, c = ':' ∨ endsAuthority true c = true) :
    takeHost true false (host.text.toList ++ rest) = (host.text.toList, rest) := by
  cases host with
  | name text => exact takeHost_of_notForbidden (fun c hc => (h.2.1 c hc).1) hrest
  | ipv4 address =>
      rw [UrlHost.toList_text_ipv4]
      exact takeHost_of_notForbidden (fun c hc => (UrlHost.isPlain_of_mem_spelled hc).1) hrest
  | ipv6 pieces =>
      obtain ⟨inner, htext, hinner⟩ := UrlHost.exists_text_ipv6 pieces
      have hgoes : ∀ c ∈ inner, endsAuthority true c = false ∧ c ≠ '[' ∧ c ≠ ']' ∧
          (c = ':' → true = true) := by
        intro c hc
        rcases hinner c hc with rfl | ⟨digit, hdigit, rfl⟩
        · decide
        · exact (by decide : ∀ digit < 16, endsAuthority true (Nat.digitChar digit) = false ∧
            Nat.digitChar digit ≠ '[' ∧ Nat.digitChar digit ≠ ']' ∧
            (Nat.digitChar digit = ':' → true = true)) digit hdigit
      have hclose : takeHost true true (']' :: rest) = ([']'], rest) := by
        change (']' :: (takeHost true false rest).1, (takeHost true false rest).2) = _
        rw [takeHost_of_ends hrest]
      have hinside : takeHost true true (inner ++ ']' :: rest) = (inner ++ [']'], rest) := by
        rw [takeHost_append hgoes, hclose]
      rw [htext, List.cons_append, List.cons_append, List.append_assoc, List.singleton_append]
      change ('[' :: (takeHost true true (inner ++ ']' :: rest)).1,
        (takeHost true true (inner ++ ']' :: rest)).2) = _
      rw [hinside]

/-- The characters of user name and password with the sign behind them, if there are any. -/
def userInfoChars (info : List Char) : List Char := if info.isEmpty then [] else info ++ ['@']

theorem endsAuthority_of_isUserInfo {info : List Char} (h : IsUserInfo info) :
    ∀ c ∈ info, IsVisible c ∧ endsAuthority true c = false := by
  obtain ⟨user, password, hplain, rfl⟩ := h
  have hwritten : ∀ c ∈ user ++ password, IsVisible c ∧ endsAuthority true c = false := by
    intro c hc
    refine ⟨isVisible_of_notInUserInfo (hplain c hc), Bool.eq_false_iff.mpr fun hends => ?_⟩
    have hchar := hplain c hc
    simp only [endsAuthority, Bool.true_and, Bool.or_eq_true, decide_eq_true_eq] at hends
    rcases hends with ((rfl | rfl) | rfl) | rfl <;> exact absurd hchar (by decide)
  intro c hc
  rcases List.mem_append.mp hc with hc | hc
  · exact hwritten c (List.mem_append_left _ hc)
  · split at hc
    · exact absurd hc List.not_mem_nil
    · rcases List.mem_cons.mp hc with rfl | hc
      · decide
      · exact hwritten c (List.mem_append_right _ hc)

theorem endsAuthority_of_mem_text {host : UrlHost} (h : host.WellFormed) {c : Char}
    (hc : c ∈ host.text.toList) : IsVisible c ∧ endsAuthority true c = false ∧ c ≠ '@' := by
  have hplain (hforbidden : UrlHost.isForbidden c = false) :
      IsVisible c ∧ endsAuthority true c = false ∧ c ≠ '@' :=
    have ⟨hvisible, hends, _, _, _, hsign⟩ := endsAuthority_of_notForbidden hforbidden
    ⟨hvisible, hends, hsign⟩
  cases host with
  | name text => exact hplain (h.2.1 c hc).1
  | ipv4 address =>
      rw [UrlHost.toList_text_ipv4] at hc
      exact hplain (UrlHost.isPlain_of_mem_spelled hc).1
  | ipv6 pieces =>
      obtain ⟨inner, htext, hinner⟩ := UrlHost.exists_text_ipv6 pieces
      rw [htext, List.mem_append, List.mem_cons, List.mem_singleton] at hc
      rcases hc with (rfl | hc) | rfl
      · decide
      · rcases hinner c hc with rfl | ⟨digit, hdigit, rfl⟩
        · decide
        · exact (by decide : ∀ digit < 16, IsVisible (Nat.digitChar digit) ∧
            endsAuthority true (Nat.digitChar digit) = false ∧ Nat.digitChar digit ≠ '@')
            digit hdigit
      · decide

theorem endsAuthority_of_mem_portChars {port : Option Nat} {c : Char} (hc : c ∈ portChars port) :
    IsVisible c ∧ endsAuthority true c = false ∧ c ≠ '@' := by
  cases port with
  | none => exact absurd hc List.not_mem_nil
  | some port =>
      rcases List.mem_cons.mp hc with rfl | hc
      · decide
      · obtain ⟨digit, hdigit, rfl⟩ := UrlHost.exists_digit_of_mem_toDigits (by decide) hc
        exact (by decide : ∀ digit < 10, IsVisible (Nat.digitChar digit) ∧
          endsAuthority true (Nat.digitChar digit) = false ∧ Nat.digitChar digit ≠ '@')
          digit hdigit

theorem span_authority {authority rest : List Char}
    (hauthority : ∀ c ∈ authority, endsAuthority true c = false)
    (hrest : ∀ c ∈ rest.head?, endsAuthority true c = true) :
    (authority ++ rest).span (fun c => !endsAuthority true c) = (authority, rest) :=
  span_append rest (fun c hc => by rw [hauthority c hc]; rfl) fun c hc => by rw [hrest c hc]; rfl

theorem takeUserInfo_append {info authority rest : List Char} (hinfo : IsUserInfo info)
    (hauthority : ∀ c ∈ authority, endsAuthority true c = false ∧ c ≠ '@')
    (hrest : ∀ c ∈ rest.head?, endsAuthority true c = true) :
    takeUserInfo true (userInfoChars info ++ (authority ++ rest)) =
      .ok (info, authority ++ rest) := by
  have hends : ∀ c ∈ authority, endsAuthority true c = false := fun c hc => (hauthority c hc).1
  cases info with
  | nil =>
      have hnone : authority.contains '@' = false := by
        simpa using fun h => (hauthority '@' h).2 rfl
      simp only [userInfoChars, List.isEmpty_nil, if_true, List.nil_append, takeUserInfo,
        span_authority hends hrest, hnone, Bool.false_eq_true, if_false]
  | cons c info =>
      have hfront : ∀ d ∈ c :: info ++ '@' :: authority, endsAuthority true d = false :=
        List.forall_mem_append.mpr ⟨fun d hd => (endsAuthority_of_isUserInfo hinfo d hd).2,
          List.forall_mem_cons.mpr ⟨by decide, hends⟩⟩
      have hspan := span_authority hfront hrest
      have hbehind : ((c :: info ++ '@' :: authority).reverse.takeWhile (· ≠ '@')).reverse =
          authority :=
        reverse_takeWhile_reverse (by decide) fun d hd => decide_eq_true (hauthority d hd).2
      have hbefore : (c :: info ++ '@' :: authority).take
          ((c :: info ++ '@' :: authority).length - authority.length - 1) = c :: info := by
        have hlength : (c :: info ++ '@' :: authority).length - authority.length - 1 =
            (c :: info).length := by
          simp only [List.length_append, List.length_cons]
          omega
        rw [hlength, List.take_left]
      have hsome : (c :: info ++ '@' :: authority).contains '@' = true := by simp
      have htext : userInfoChars (c :: info) ++ (authority ++ rest) =
          (c :: info ++ '@' :: authority) ++ rest := by
        simp [userInfoChars]
      rw [htext, takeUserInfo, hspan]
      dsimp only
      rw [if_pos hsome, hbehind, hbefore, writeUserInfo_eq_self hinfo]
      rfl

end Authority

end Url

end BrowserBridge
