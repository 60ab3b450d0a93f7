import NotionProject.Proofs.Url.Joining

/-!
# What comes after a base

Whatever is written after the text of a base URL and a slash, the scheme, the user, the host and
the port that are read are those of the base (`Url.origin_of_parse_append`). They end before the
path begins, and of spaces, tabs and line ends only those after the base are dropped.
-/

namespace NotionProject

namespace Url

variable {url base : Url}

/-- Before a slash nothing is dropped. -/
theorem cleaned_append_slash {before : List Char} (h : ∀ c ∈ before, isMargin c = false)
    (after : List Char) : ∃ rest, cleaned (before ++ '/' :: after) = before ++ '/' :: rest := by
  have hstart : (before ++ '/' :: after).dropWhile isMargin = before ++ '/' :: after := by
    cases before with
    | nil => exact List.dropWhile_cons_of_neg (by decide)
    | cons c before => exact List.dropWhile_cons_of_neg (by simp [h c List.mem_cons_self])
  have hslash : isMargin '/' = false := by decide
  rw [cleaned, hstart, Text.dropEndWhile_append_cons hslash, List.filter_append,
    filter_isIgnored h, List.filter_cons_of_pos (by decide)]
  exact ⟨_, rfl⟩

/-- An address begins with the origin of the base and a slash. -/
theorem exists_base_append_eq (h : base.IsNormal) (text : List Char) :
    ∃ after, base.base.toList ++ '/' :: text = base.originChars ++ '/' :: after := by
  obtain ⟨before, c, horigin, hc⟩ := exists_originChars_eq h
  obtain ⟨more, hmore⟩ : ∃ more, base.pathChars ++ marked '?' base.query ++
      marked '#' base.fragment = '/' :: more := by
    obtain ⟨segment, path, hpath⟩ := List.exists_cons_of_ne_nil h.path_ne_nil
    exact ⟨_, by rw [pathChars, hpath]; rfl⟩
  have hbase : base.base.toList =
      base.originChars ++ Text.dropEndWhile (· == '/') ('/' :: more) := by
    have hchars : base.chars = before ++ c :: '/' :: more := by
      rw [← hmore, chars, horigin]
      simp
    have hdrop := @Text.dropEndWhile_append_cons (· == '/') c hc before ('/' :: more)
    rw [Url.base, String.toList_ofList, hchars, hdrop, horigin]
    simp
  rw [hbase, List.append_assoc]
  -- either all after the origin is slashes, or a slash comes first
  cases hrest : Text.dropEndWhile (· == '/') ('/' :: more) with
  | nil => exact ⟨text, rfl⟩
  | cons d rest =>
    have hprefix := Text.isPrefix_dropEndWhile (· == '/') ('/' :: more)
    rw [hrest] at hprefix
    obtain rfl := (List.cons_prefix_cons.1 hprefix).1
    exact ⟨_, rfl⟩

/-- Whatever is written after a base, its origin is read as it is. -/
theorem origin_of_parse_append (h : base.IsNormal) {text : String}
    (hparse : parse (base.base ++ "/" ++ text) = .ok url) :
    url.secure = base.secure ∧ url.userInfo = base.userInfo ∧ url.host = base.host ∧
      url.port = base.port := by
  have htext : (base.base ++ "/" ++ text).toList = base.base.toList ++ '/' :: text.toList := by
    simp [String.toList_append]
  obtain ⟨after, hafter⟩ := exists_base_append_eq h text.toList
  have horigin : ∀ c ∈ base.originChars, isMargin c = false := fun c hc =>
    not_isMargin_of_mem_chars h c (by simp [chars, hc])
  obtain ⟨rest, hrest⟩ := cleaned_append_slash horigin after
  obtain ⟨hdrop, htake⟩ := dropWhile_authorityChars h ⟨rest, rfl⟩
  rw [parse, htext, hafter, parseChars, hrest, originChars_eq, List.append_assoc,
    List.cons_append, (splitScheme?_scheme base _).1] at hparse
  simp only [(splitScheme?_scheme base []).2] at hparse
  rw [parseWeb, hdrop, htake,
    parseAuthority_authorityChars h.userInfo h.host h.port] at hparse
  obtain ⟨⟨info, host, port⟩, hauthority, hparse⟩ := bind_eq_ok_iff.1 hparse
  obtain ⟨host, hhost, ⟨⟩⟩ := map_eq_ok_iff.1 hauthority
  cases hparse
  exact ⟨rfl, rfl, Host.eq_of_parse_chars h.host hhost, rfl⟩

end Url

end NotionProject
