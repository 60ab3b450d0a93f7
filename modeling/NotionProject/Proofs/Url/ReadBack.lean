import NotionProject.Proofs.Url.Authority
import NotionProject.Proofs.Url.Path

/-!
# URLs read back

A URL that was read is in normal form (`Url.isNormal_of_parseChars`): each of its parts is one that
the text of the URL shows as it is. The text of a URL in normal form is therefore read as that URL,
provided that its host is read (`Url.parseChars_chars`). That part is not for granted: a name in
Punycode is checked again.
-/

namespace NotionProject

open Percent (IsEncoded)

namespace Url

/-- The URL may have been read. -/
structure IsNormal (url : Url) : Prop where
  userInfo : url.userInfo.IsNormal
  host : url.host.IsNormal
  port : ∀ n ∈ url.port, n < 65536 ∧ n ≠ usualPort url.secure
  path_ne_nil : url.path ≠ []
  path : ∀ segment ∈ url.path, IsSegment segment
  query : ∀ query ∈ url.query, IsEncoded Percent.inQuery query
  fragment : ∀ fragment ∈ url.fragment, IsEncoded Percent.inFragment fragment

variable {url : Url} {text : List Char}

/-! ## What is read -/

theorem isEncoded_of_mem_map {reserved : Char → Bool}
    (h : ∀ c ∈ Percent.octetChars, reserved c = false) {part : Option (List Char)} :
    ∀ text ∈ part.map (Percent.encode reserved), IsEncoded reserved text := by
  intro text hm
  obtain ⟨part, -, rfl⟩ := Option.map_eq_some_iff.1 hm
  exact Percent.isEncoded_encode h part

theorem isNormal_of_parseWeb {secure : Bool} (h : parseWeb secure text = .ok url) :
    url.IsNormal := by
  obtain ⟨⟨info, host, port⟩, ha, h⟩ := bind_eq_ok_iff.1 h
  obtain ⟨hinfo, hhost, hport⟩ := isNormal_of_parseAuthority ha
  cases h
  exact
    { userInfo := hinfo
      host := hhost
      port := hport
      path_ne_nil := parsePath_ne_nil _
      path := isSegment_of_mem_parsePath
      query := isEncoded_of_mem_map (by decide)
      fragment := isEncoded_of_mem_map (by decide) }

/-- A URL that was read is in normal form. -/
theorem isNormal_of_parseChars (h : parseChars text = .ok url) : url.IsNormal := by
  unfold parseChars at h
  split at h
  · cases h
  · split at h
    · exact isNormal_of_parseWeb h
    · obtain ⟨-, -, h⟩ := bind_eq_ok_iff.1 h
      cases h

/-! ## The characters of a URL -/

theorem dropWhile_isMargin (h : ∀ c ∈ text, isMargin c = false) :
    text.dropWhile isMargin = text := by
  cases text with
  | nil => rfl
  | cons c rest => exact List.dropWhile_cons_of_neg (by simp [h c List.mem_cons_self])

theorem filter_isIgnored (h : ∀ c ∈ text, isMargin c = false) :
    text.filter (!isIgnored ·) = text := by
  have hmargin : ∀ c, isIgnored c = true → isMargin c = true := by
    intro c
    simp only [isIgnored, Bool.or_eq_true, beq_iff_eq]
    rintro ((rfl | rfl) | rfl) <;> decide
  refine List.filter_eq_self.2 fun c hc => ?_
  by_contra hi
  exact absurd (hmargin c (by simpa using hi)) (by simp [h c hc])

theorem cleaned_eq_self (h : ∀ c ∈ text, isMargin c = false) : cleaned text = text := by
  rw [cleaned, dropWhile_isMargin h, Text.dropEndWhile_eq_self h, filter_isIgnored h]

/-- Where control characters and the space are reserved, none of them is free. -/
theorem not_isMargin_of_reserved {reserved : Char → Bool}
    (h : ∀ n : Fin 33, reserved (Char.ofNat n) = true) {c : Char} (hc : reserved c = false) :
    isMargin c = false := by
  by_contra hm
  have hlt : c.toNat < 33 := by
    simp only [isMargin, Bool.not_eq_false, decide_eq_true_eq] at hm
    omega
  have hr := char_of_forall_fin (p := fun c => reserved c = true) h hlt
  rw [hc] at hr
  cases hr

theorem forall_mem_pathChars {p : Char → Prop} (hslash : p '/')
    (h : ∀ segment ∈ url.path, ∀ c ∈ segment, p c) : ∀ c ∈ url.pathChars, p c := by
  intro c hc
  obtain ⟨segment, hs, hc⟩ := List.mem_flatMap.1 hc
  rcases List.mem_cons.1 hc with rfl | hc
  · exact hslash
  · exact h segment hs c hc

theorem originChars_eq (url : Url) : url.originChars =
    url.scheme ++ ':' :: '/' :: '/' :: authorityChars url.userInfo url.host url.port := by
  simp [originChars, authorityChars]

/-- The text of a URL has no space and no control character. -/
theorem not_isMargin_of_mem_chars (h : url.IsNormal) : ∀ c ∈ url.chars, isMargin c = false := by
  have hencoded : ∀ {reserved : Char → Bool} {text : List Char},
      (∀ n : Fin 33, reserved (Char.ofNat n) = true) → IsEncoded reserved text →
        ∀ c ∈ text, isMargin c = false := fun hr he c hc =>
    not_isMargin_of_reserved hr (he c hc).2
  have horigin : ∀ c ∈ url.originChars, isMargin c = false := by
    have hscheme : ∀ c ∈ url.scheme, isMargin c = false := by
      rw [scheme]
      split <;> decide
    have hauthority : ∀ c ∈ authorityChars url.userInfo url.host url.port, isMargin c = false :=
      forall_mem_authorityChars h.userInfo h.host (by decide)
        (fun c => not_isMargin_of_reserved (by decide))
        (fun c => not_isMargin_of_reserved (by decide))
    have hmarks : ∀ c ∈ "://".toList, isMargin c = false := by decide
    rw [originChars_eq]
    exact List.forall_mem_append.2 ⟨hscheme, List.forall_mem_append.2 ⟨hmarks, hauthority⟩⟩
  have hpath : ∀ c ∈ url.pathChars, isMargin c = false :=
    forall_mem_pathChars (by decide) fun segment hs =>
      hencoded (by decide) (h.path segment hs).encoded
  have hquery : ∀ c ∈ marked '?' url.query, isMargin c = false :=
    forall_mem_marked (by decide) fun query hq => hencoded (by decide) (h.query query hq)
  have hfragment : ∀ c ∈ marked '#' url.fragment, isMargin c = false :=
    forall_mem_marked (by decide) fun part hf => hencoded (by decide) (h.fragment part hf)
  exact List.forall_mem_append.2 ⟨List.forall_mem_append.2
    ⟨List.forall_mem_append.2 ⟨horigin, hpath⟩, hquery⟩, hfragment⟩

/-! ## Reading back -/

theorem splitFirst_marked {mark : Char} {before : List Char} (h : mark ∉ before)
    (part : Option (List Char)) :
    Text.splitFirst mark (before ++ marked mark part) = (before, part) := by
  cases part with
  | none =>
    rw [marked, List.append_nil]
    exact Text.splitFirst_of_notMem h
  | some part => exact Text.splitFirst_append h part

/-- Path, query and fragment are told apart by their marks. -/
theorem splitFirst_pathChars (h : url.IsNormal) :
    Text.splitFirst '#' (url.pathChars ++ marked '?' url.query ++ marked '#' url.fragment) =
        (url.pathChars ++ marked '?' url.query, url.fragment) ∧
      Text.splitFirst '?' (url.pathChars ++ marked '?' url.query) = (url.pathChars, url.query) := by
  have hfree : ∀ {reserved : Char → Bool} {text : List Char} {mark : Char}, reserved mark = true →
      IsEncoded reserved text → ∀ c ∈ text, c ≠ mark := by
    rintro reserved text mark hr he c hc rfl
    simp [(he c hc).2] at hr
  have hpath : ∀ {mark : Char}, mark ≠ '/' → Percent.inPath mark = true →
      ∀ c ∈ url.pathChars, c ≠ mark := fun hslash hr =>
    forall_mem_pathChars hslash.symm fun segment hs => hfree hr (h.path segment hs).encoded
  have hquery : ∀ c ∈ marked '?' url.query, c ≠ '#' :=
    forall_mem_marked (by decide) fun query hq => hfree (by decide) (h.query query hq)
  have hboth : ∀ c ∈ url.pathChars ++ marked '?' url.query, c ≠ '#' :=
    List.forall_mem_append.2 ⟨hpath (by decide) (by decide), hquery⟩
  exact ⟨splitFirst_marked (fun hm => hboth _ hm rfl) _,
    splitFirst_marked (fun hm => hpath (by decide) (by decide) _ hm rfl) _⟩

/-- The text after the slashes is told apart from that before the path. -/
theorem dropWhile_authorityChars (h : url.IsNormal) {tail : List Char}
    (htail : ∃ rest, tail = '/' :: rest) :
    ('/' :: '/' :: authorityChars url.userInfo url.host url.port ++ tail).dropWhile
        (fun c => c == '/' || c == '\\') =
          authorityChars url.userInfo url.host url.port ++ tail ∧
      (authorityChars url.userInfo url.host url.port ++ tail).takeWhile
        (!endsAuthority true ·) = authorityChars url.userInfo url.host url.port := by
  have hends : ∀ c ∈ authorityChars url.userInfo url.host url.port, endsAuthority true c = false :=
    not_endsAuthority_of_mem h.userInfo h.host
  have hne : authorityChars url.userInfo url.host url.port ≠ [] := authorityChars_ne_nil h.host
  obtain ⟨rest, rfl⟩ := htail
  obtain ⟨c, chars, hchars⟩ := List.exists_cons_of_ne_nil hne
  constructor
  · have hc : endsAuthority true c = false := hends c (hchars ▸ List.mem_cons_self)
    have hslash : (c == '/' || c == '\\') = false := by
      simp only [endsAuthority, Bool.or_eq_false_iff, Bool.true_and] at hc ⊢
      exact ⟨hc.1.1.1, hc.2⟩
    rw [hchars]
    simp [hslash]
  · rw [List.takeWhile_append_of_pos fun c hc => by simp [hends c hc],
      List.takeWhile_cons_of_neg (by decide), List.append_nil]

theorem parseWeb_chars (h : url.IsNormal) :
    parseWeb url.secure ('/' :: '/' :: authorityChars url.userInfo url.host url.port ++
        (url.pathChars ++ marked '?' url.query ++ marked '#' url.fragment)) =
      (Host.parse url.host.chars).map fun host => { url with host := host } := by
  have htail : ∃ rest, url.pathChars ++ marked '?' url.query ++ marked '#' url.fragment =
      '/' :: rest := by
    obtain ⟨segment, path, hpath⟩ := List.exists_cons_of_ne_nil h.path_ne_nil
    exact ⟨_, by rw [pathChars, hpath]; rfl⟩
  obtain ⟨hdrop, htake⟩ := dropWhile_authorityChars h htail
  obtain ⟨hfragment, hquery⟩ := splitFirst_pathChars h
  have hpath : parsePath url.pathChars = url.path := parsePath_flatMap h.path_ne_nil h.path
  have hencode : ∀ {reserved : Char → Bool} {part : Option (List Char)},
      (∀ text ∈ part, IsEncoded reserved text) → part.map (Percent.encode reserved) = part := by
    intro reserved part he
    cases part with
    | none => rfl
    | some text => exact congrArg some (Percent.encode_eq_self (he text rfl))
  rw [parseWeb, hdrop, htake, List.drop_left,
    parseAuthority_authorityChars h.userInfo h.host h.port]
  simp only [hfragment, hquery, hpath, hencode h.query, hencode h.fragment]
  cases Host.parse url.host.chars <;> rfl

/-- The scheme is told apart from the rest. -/
theorem splitScheme?_scheme (url : Url) (rest : List Char) :
    splitScheme? (url.scheme ++ ':' :: rest) = some (url.scheme, rest) ∧
      SchemeKind.ofName url.scheme = .web url.secure := by
  cases hs : url.secure <;> simp only [scheme, hs] <;> exact ⟨rfl, by decide⟩

/-- The text of a URL is read as the URL, if its host is read. -/
theorem parseChars_chars (h : url.IsNormal) :
    parseChars url.chars =
      (Host.parse url.host.chars).map fun host => { url with host := host } := by
  have hchars : url.chars = url.scheme ++ ':' ::
      ('/' :: '/' :: authorityChars url.userInfo url.host url.port ++
        (url.pathChars ++ marked '?' url.query ++ marked '#' url.fragment)) := by
    simp [chars, originChars_eq]
  rw [parseChars, cleaned_eq_self (not_isMargin_of_mem_chars h), hchars,
    (splitScheme?_scheme url _).1]
  simp only [(splitScheme?_scheme url []).2]
  exact parseWeb_chars h

/-- It is read as no other URL. -/
theorem eq_of_parse_text (h : url.IsNormal) {other : Url} (hp : parse url.text = .ok other) :
    other = url := by
  rw [parse, text, String.toList_ofList, parseChars_chars h] at hp
  cases hhost : Host.parse url.host.chars with
  | error error =>
    rw [hhost] at hp
    cases hp
  | ok host =>
    rw [hhost, Host.eq_of_parse_chars h.host hhost] at hp
    exact (Except.ok.inj hp).symm

/-- It is read, unless its host says that it is in Punycode. -/
theorem parse_text_of_isPlain (h : url.IsNormal) (hplain : url.host.IsPlain) :
    parse url.text = .ok url := by
  rw [parse, text, String.toList_ofList, parseChars_chars h,
    Host.parse_chars_of_isPlain h.host hplain]
  rfl

end Url

end NotionProject
