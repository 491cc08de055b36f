import BrowserBridge.Proofs.Url.Parts

/-!
Addresses of the web that were read.  They are of one form, their text is visible ASCII, and it
is read as the same address again.
-/

namespace BrowserBridge

open Percent

/-- An address of the web as it is when it was read. -/
structure WebUrl.WellFormed (url : WebUrl) : Prop where
  /-- The scheme's own port is never written. -/
  port : ∃ ownPort, Url.webPort? url.scheme = some ownPort ∧
    ∀ port ∈ url.port, port ≤ 65535 ∧ port ≠ ownPort
  userInfo : Url.IsUserInfo url.userInfo.toList
  host : url.host.WellFormed
  path_ne_nil : url.path ≠ []
  path : ∀ segment ∈ url.path, Url.IsSegment segment.toList
  query : ∀ query ∈ url.query, ∀ c ∈ query.toList, inQuery c = false
  fragment : ∀ fragment ∈ url.fragment, ∀ c ∈ fragment.toList, inFragment c = false

namespace Url

theorem exists_of_bind_eq_ok {ε α β : Type} {first : Except ε α} {next : α → Except ε β} {b : β}
    (h : (first >>= next) = .ok b) : ∃ a, first = .ok a ∧ next a = .ok b := by
  cases first with
  | error fault => cases h
  | ok a => exact ⟨a, rfl, h⟩

theorem parseWeb_wellFormed {scheme : String} {ownPort : Nat} {text : List Char} {url : WebUrl}
    (hscheme : webPort? scheme = some ownPort) (h : parseWeb scheme ownPort text = .ok url) :
    url.WellFormed := by
  obtain ⟨⟨userInfo, behind⟩, hinfo, h⟩ := exists_of_bind_eq_ok h
  dsimp only at h
  split at h
  · cases h
  · obtain ⟨host, hhost, h⟩ := exists_of_bind_eq_ok h
    obtain ⟨⟨port, rest⟩, hport, h⟩ := exists_of_bind_eq_ok h
    cases h
    exact {
      port := ⟨ownPort, hscheme, fun p hp => by
        obtain ⟨hread, hother⟩ := Option.filter_eq_some_iff.mp hp
        obtain rfl : port = some p := hread
        exact ⟨takeColonPort_le hport, by simpa using hother⟩⟩
      userInfo := by simpa using isUserInfo_of_takeUserInfo hinfo
      host := UrlHost.parse_wellFormed hhost
      path_ne_nil := (isSegment_of_takePath rest).1
      path := (isSegment_of_takePath rest).2
      query := fun query hquery => notInQuery_of_takeQuery hquery
      fragment := fun fragment hfragment => notInFragment_of_takeQuery hfragment }

/-- Whatever is read as an address of the web is in the one form. -/
theorem parse_wellFormed {text : String} {url : WebUrl} (h : parse text = .ok (.web url)) :
    url.WellFormed := by
  rw [parse] at h
  split at h
  · cases h
  · next scheme rest _ =>
    split at h
    · next ownPort hscheme =>
      generalize hread : parseWeb scheme ownPort _ = read at h
      cases read with
      | error fault => cases h
      | ok found =>
          cases h
          exact parseWeb_wellFormed hscheme hread
    · split at h
      · cases hfile : checkFile rest <;> simp [hfile, Except.map] at h
      · split at h
        · next rest _ =>
          cases hauthority : checkAuthority rest <;> simp [hauthority, Except.map] at h
        · cases h

section Text

theorem toList_text (url : WebUrl) : url.text.toList =
    url.scheme.toList ++ ':' :: '/' :: '/' :: (userInfoChars url.userInfo.toList ++
      ((url.host.text.toList ++ portChars url.port) ++
        ('/' :: pathChars url.path ++ queryChars url.query url.fragment))) := by
  obtain ⟨scheme, userInfo, host, port, path, query, fragment⟩ := url
  have huserInfo : (if userInfo.isEmpty then "" else userInfo ++ "@").toList =
      userInfoChars userInfo.toList := by
    by_cases hempty : userInfo = ""
    · subst hempty
      rfl
    · have htext : userInfo.isEmpty = false := by simpa using hempty
      have hchars : userInfo.toList.isEmpty = false := by simpa using hempty
      rw [userInfoChars, htext, hchars]
      exact String.toList_append
  have hpath : ("/".intercalate path).toList = pathChars path := String.toList_intercalate
  simp only [WebUrl.text, String.toList_append, huserInfo, hpath]
  cases port <;> cases query <;> cases fragment <;> simp [portChars, queryChars]

end Text

section Parse

theorem takeScheme_append {scheme : String} {ownPort : Nat} (h : webPort? scheme = some ownPort)
    (rest : List Char) : takeScheme (scheme.toList ++ ':' :: rest) = some (scheme, rest) := by
  unfold webPort? at h
  split at h <;> first | rfl | cases h

theorem clean_eq_self {text : String} (h : ∀ c ∈ text.toList, IsVisible c) :
    clean text = text.toList := by
  have htrim {chars : List Char} (hchars : ∀ c ∈ chars, IsVisible c) :
      chars.dropWhile (fun c => c.toNat ≤ 0x20) = chars := by
    cases chars with
    | nil => rfl
    | cons c chars =>
        have hc := (hchars c List.mem_cons_self).1
        exact List.dropWhile_cons_of_neg (by simpa using hc)
  have hkept : ∀ c ∈ text.toList, (c ≠ '\t' && c ≠ '\n' && c ≠ '\r') = true := by
    intro c hc
    have hvisible := h c hc
    simp only [Bool.and_eq_true, decide_eq_true_eq]
    refine ⟨⟨?_, ?_⟩, ?_⟩ <;> rintro rfl <;> exact absurd hvisible (by decide)
  simp only [clean, htrim h, htrim fun c hc => h c (List.mem_reverse.mp hc), List.reverse_reverse]
  exact List.filter_eq_self.mpr hkept

theorem isVisible_scheme {scheme : String} {ownPort : Nat} (h : webPort? scheme = some ownPort) :
    ∀ c ∈ scheme.toList, IsVisible c := by
  have hall : scheme.toList.all (fun c => decide (IsVisible c)) = true := by
    unfold webPort? at h
    split at h <;> first | rfl | cases h
  exact fun c hc => of_decide_eq_true (List.all_eq_true.mp hall c hc)

theorem isVisible_pathChars {path : List String}
    (h : ∀ segment ∈ path, IsSegment segment.toList) : ∀ c ∈ pathChars path, IsVisible c := by
  intro c hc
  rcases mem_intercalate hc with rfl | ⟨part, hpart, hc⟩
  · decide
  · obtain ⟨segment, hsegment, rfl⟩ := List.mem_map.mp hpart
    exact isVisible_of_notInPath ((h segment hsegment).written c hc).1

theorem isVisible_queryChars {query fragment : Option String}
    (hquery : ∀ text ∈ query, ∀ c ∈ text.toList, inQuery c = false)
    (hfragment : ∀ text ∈ fragment, ∀ c ∈ text.toList, inFragment c = false) :
    ∀ c ∈ queryChars query fragment, IsVisible c := by
  intro c hc
  rcases List.mem_append.mp hc with hc | hc <;> split at hc
  · rcases List.mem_cons.mp hc with rfl | hc
    · decide
    · exact isVisible_of_notInQuery (hquery _ rfl c hc)
  · exact absurd hc List.not_mem_nil
  · rcases List.mem_cons.mp hc with rfl | hc
    · decide
    · exact isVisible_of_notInFragment (hfragment _ rfl c hc)
  · exact absurd hc List.not_mem_nil

/-- The text of an address that was read is visible ASCII. -/
theorem isVisible_text {url : WebUrl} (h : url.WellFormed) :
    ∀ c ∈ url.text.toList, IsVisible c := by
  obtain ⟨ownPort, hscheme, -⟩ := h.port
  have huserInfo : ∀ c ∈ userInfoChars url.userInfo.toList, IsVisible c := by
    intro c hc
    rw [userInfoChars] at hc
    split at hc
    · exact absurd hc List.not_mem_nil
    · rcases List.mem_append.mp hc with hc | hc
      · exact (endsAuthority_of_isUserInfo h.userInfo c hc).1
      · rw [List.mem_singleton.mp hc]
        decide
  rw [toList_text]
  simp only [List.forall_mem_append, List.forall_mem_cons]
  exact ⟨isVisible_scheme hscheme, by decide, by decide, by decide, huserInfo,
    ⟨fun c hc => (endsAuthority_of_mem_text h.host hc).1,
      fun c hc => (endsAuthority_of_mem_portChars hc).1⟩,
    ⟨by decide, isVisible_pathChars h.path⟩, isVisible_queryChars h.query h.fragment⟩

theorem parseWeb_text {url : WebUrl} (h : url.WellFormed) {ownPort : Nat}
    (hscheme : webPort? url.scheme = some ownPort) :
    parseWeb url.scheme ownPort (userInfoChars url.userInfo.toList ++
      ((url.host.text.toList ++ portChars url.port) ++
        ('/' :: pathChars url.path ++ queryChars url.query url.fragment))) = .ok url := by
  have hauthority : ∀ c ∈ url.host.text.toList ++ portChars url.port,
      endsAuthority true c = false ∧ c ≠ '@' := by
    intro c hc
    rcases List.mem_append.mp hc with hc | hc
    · exact (endsAuthority_of_mem_text h.host hc).2
    · exact (endsAuthority_of_mem_portChars hc).2
  have hslash : ∀ c ∈ ('/' :: pathChars url.path ++ queryChars url.query url.fragment).head?,
      endsAuthority true c = true := by
    rintro _ ⟨⟩
    decide
  have hcolon : ∀ c ∈ (portChars url.port ++
      ('/' :: pathChars url.path ++ queryChars url.query url.fragment)).head?,
      c = ':' ∨ endsAuthority true c = true := by
    cases url.port with
    | none => exact fun c hc => .inr (hslash c hc)
    | some port =>
        rintro _ ⟨⟩
        exact .inl rfl
  have hquestion : ∀ c ∈ (queryChars url.query url.fragment).head?, c = '?' ∨ c = '#' := by
    cases url.query <;> cases url.fragment <;> rintro _ ⟨⟩ <;> simp
  obtain ⟨own, hown, hport⟩ := h.port
  obtain rfl : own = ownPort := Option.some.inj (hown.symm.trans hscheme)
  have hkept : url.port.filter (· ≠ own) = url.port := by
    cases hwritten : url.port with
    | none => rfl
    | some port => exact if_pos (decide_eq_true (hport port hwritten).2)
  have hhost : (url.host.text.toList).isEmpty = false :=
    List.isEmpty_eq_false_iff.mpr (UrlHost.text_ne_nil h.host)
  rw [parseWeb, takeUserInfo_append h.userInfo hauthority hslash, List.append_assoc]
  simp only [bind, Except.bind, takeHost_text h.host hcolon, hhost, Bool.false_eq_true, if_false,
    UrlHost.parse_text h.host, takeColonPort_portChars (fun n hn => (hport n hn).1) hslash,
    takePath_append h.path_ne_nil h.path hquestion, takeQuery_queryChars h.query h.fragment,
    String.ofList_toList, hkept]
  rfl

/-- Behind the slashes of an address there is no further one. -/
theorem dropSlashes_eq_self {url : WebUrl} (h : url.WellFormed) (rest : List Char) :
    (userInfoChars url.userInfo.toList ++ (url.host.text.toList ++ rest)).dropWhile
      (fun c => c = '/' || c = '\\') =
        userInfoChars url.userInfo.toList ++ (url.host.text.toList ++ rest) := by
  have hstart {c : Char} {chars : List Char} (hc : endsAuthority true c = false) :
      (c :: chars).dropWhile (fun c => c = '/' || c = '\\') = c :: chars := by
    refine List.dropWhile_cons_of_neg ?_
    simp only [endsAuthority, Bool.or_eq_false_iff, Bool.true_and, decide_eq_false_iff_not] at hc
    simp [hc.1.1.1, hc.2]
  have hinfo := endsAuthority_of_isUserInfo h.userInfo
  generalize url.userInfo.toList = info at hinfo
  cases info with
  | nil =>
      obtain ⟨c, chars, hchars⟩ := List.exists_cons_of_ne_nil (UrlHost.text_ne_nil h.host)
      have hc := endsAuthority_of_mem_text h.host (hchars ▸ List.mem_cons_self)
      rw [hchars]
      exact hstart hc.2.1
  | cons c info => exact hstart (hinfo c List.mem_cons_self).2

/-- The text of an address in the one form is read as that address. -/
theorem parse_text {url : WebUrl} (h : url.WellFormed) : parse url.text = .ok (.web url) := by
  obtain ⟨ownPort, hscheme, -⟩ := h.port
  have hread := parseWeb_text h hscheme
  rw [List.append_assoc] at hread
  rw [parse, clean_eq_self (isVisible_text h), toList_text, takeScheme_append hscheme]
  dsimp only
  split
  · next found hfound =>
    obtain rfl : found = ownPort := Option.some.inj (hfound.symm.trans hscheme)
    rw [List.dropWhile_cons_of_pos rfl, List.dropWhile_cons_of_pos rfl, List.append_assoc,
      dropSlashes_eq_self h, hread]
    rfl
  · next houtside => rw [houtside] at hscheme; cases hscheme

/-- The addresses of the web that can be read are those in the one form, and reading the text of
one again gives it back. -/
theorem parse_eq_web_iff {url : WebUrl} :
    (∃ text, parse text = .ok (.web url)) ↔ url.WellFormed :=
  ⟨fun ⟨_, h⟩ => parse_wellFormed h, fun h => ⟨url.text, parse_text h⟩⟩

end Parse

end Url

end BrowserBridge
