import NotionProject.Proofs.Recognition

/-!
# The address of a page

The last segment of the path of a page is a slug, a hyphen and a name of the page's identifier. The
slug may be any text within one segment, also one that is full of digits and hyphens, or that holds
names of other identifiers. Still the identifier at its end is the one that is read
(`Identifier.parse_pageAddress`).

No name in the slug is at the end of the segment, and one that starts in the slug and ends with the
segment would be a name with a hyphen and a whole other name at its end, which has more digits than
a name has (`IsIdName.append_ne`). So the name after the slug is the first one in the path
(`isFirst_after_slug`). What is taken away around a text leaves the address as it is, up to the end
of the name (`exists_cleaned_append`).
-/

namespace NotionProject

namespace Identifier

open Text

variable {name other slug tail : List Char}

/-! ## Names within a segment -/

/-- The text is within one segment of a path. -/
def IsWithinSegment (text : List Char) : Prop :=
  ∀ c ∈ text, ¬(c = '/' ∨ c = '?' ∨ c = '#')

theorem not_endsSegment_of_isHexDigit {c : Char} (h : isHexDigit c = true) :
    ¬(c = '/' ∨ c = '?' ∨ c = '#') :=
  of_isHexDigit (p := fun c => ¬(c = '/' ∨ c = '?' ∨ c = '#')) (by decide) h

theorem IsIdName.isWithinSegment (h : IsIdName name) : IsWithinSegment name := by
  intro c hc
  rcases h.isHex_or_hyphen c hc with hdigit | rfl
  · exact not_endsSegment_of_isHexDigit hdigit
  · decide

theorem IsIdName.exists_head (h : IsIdName name) :
    ∃ c rest, name = c :: rest ∧ isHexDigit c = true := by
  rcases h with ⟨hlength, hdigits⟩ | hhyphenated
  · cases name with
    | nil => cases hlength
    | cons c rest => exact ⟨c, rest, rfl, hdigits c List.mem_cons_self⟩
  · obtain ⟨first, more, hlength, hfirst, rfl⟩ := hhyphenated.exists_first
    cases first with
    | nil => cases hlength
    | cons c rest => exact ⟨c, rest ++ '-' :: more, rfl, hfirst c List.mem_cons_self⟩

/-- No name ends with a hyphen and another name. -/
theorem IsIdName.append_ne (hother : IsIdName other) (hname : IsIdName name) (more : List Char) :
    more ++ '-' :: name ≠ other := by
  intro h
  -- the digits of the name are all there are, so that only hyphens stand before it
  have hlength : (unhyphenated more).length + (unhyphenated name).length =
      (unhyphenated other).length := by
    rw [← h, unhyphenated, unhyphenated, unhyphenated, List.filter_append, List.length_append,
      List.filter_cons_of_neg (by decide)]
  have hmore : unhyphenated more = [] := by
    rw [hother.isHex.1, hname.isHex.1] at hlength
    exact List.length_eq_zero_iff.1 (by omega)
  obtain ⟨c, rest, rfl, hdigit⟩ := hother.exists_head
  have hhead : c = '-' := by
    cases more with
    | nil => exact (List.cons.inj h).1.symm
    | cons d more =>
      have hd := List.filter_eq_nil_iff.1 hmore d List.mem_cons_self
      obtain rfl := (List.cons.inj h).1
      simpa using hd
  rw [hhead] at hdigit
  cases hdigit

/-- What comes before the end of the first segment is determined by the text. -/
theorem IsWithinSegment.eq_of_append_eq {text text' rest rest' : List Char}
    (htext : IsWithinSegment text) (htext' : IsWithinSegment text') (hrest : StartsAtEnd rest)
    (hrest' : StartsAtEnd rest') (h : text ++ rest = text' ++ rest') : text = text' := by
  rcases List.append_eq_append_iff.1 h with ⟨more, rfl, rfl⟩ | ⟨more, rfl, rfl⟩
  · cases more with
    | nil => rw [List.append_nil]
    | cons c more => exact absurd (hrest c rfl) (htext' c (by simp))
  · cases more with
    | nil => rw [List.append_nil]
    | cons c more => exact absurd (hrest' c rfl) (htext c (by simp))

/-- After a slug the name at the end of the segment is the first one. -/
theorem isFirst_after_slug (hslug : IsWithinSegment slug) (hname : IsIdName name)
    (htail : StartsAtEnd tail) : IsFirst name ('/' :: slug ++ '-' :: (name ++ tail)) := by
  refine ⟨'/' :: slug, ⟨'-', name ++ tail, Or.inr rfl, rfl, tail, hname, rfl, htail⟩, ?_⟩
  rintro earlier other ⟨mark, rest, -, htext, after, hother, rfl, hafter⟩
  by_contra hlt
  -- the earlier mark is in the slug, so that the other name would end where the name does
  have hmark : earlier ++ [mark] <+: '/' :: slug :=
    List.prefix_of_prefix_length_le ⟨other ++ after, by rw [List.append_assoc]; exact htext⟩
      (List.prefix_append _ _) (by simpa [Nat.lt_succ_iff] using hlt)
  obtain ⟨more, hmore⟩ := hmark
  have hslug' : (earlier ++ [mark]).tail ++ more = slug := by
    rw [← List.tail_append_of_ne_nil (List.concat_ne_nil _ _), hmore, List.tail_cons]
  have hrest : other ++ after = (more ++ '-' :: name) ++ tail := by
    rw [← hmore, List.append_assoc, List.append_assoc] at htext
    simpa using htext
  have hsegment : IsWithinSegment (more ++ '-' :: name) := by
    intro c hc
    rcases List.mem_append.1 hc with hc | hc
    · exact hslug c (hslug' ▸ List.mem_append_right _ hc)
    · rcases List.mem_cons.1 hc with rfl | hc
      · decide
      · exact hname.isWithinSegment c hc
  exact hother.append_ne hname more
    (hother.isWithinSegment.eq_of_append_eq hsegment hafter htail hrest).symm

/-! ## The address in a text -/

theorem IsIdName.exists_last (h : IsIdName name) :
    ∃ c, name.getLast? = some c ∧ isSolid c = true := by
  obtain ⟨d, rest, hd, -⟩ := h.exists_head
  have hne : name ≠ [] := hd ▸ List.cons_ne_nil d rest
  refine ⟨name.getLast hne, List.getLast?_eq_some_getLast hne, ?_⟩
  rcases h.isHex_or_hyphen _ (List.getLast_mem hne) with hdigit | hhyphen
  · exact isSolid_of_isHexDigit hdigit
  · rw [hhyphen]
    decide

/-- What is taken away around an address, and behind it, leaves the address. -/
theorem exists_cleaned_append {before address after : List Char} {first last : Char}
    (hhead : address.head? = some first) (hfirst : isBlank first = false)
    (hgetLast : address.getLast? = some last) (hlast : isSolid last = true)
    (hbefore : ∀ c ∈ before, isBlank c = true) (hafter : ∀ c ∈ after, isBlank c = true) :
    ∃ kept, kept <+: tail ∧ cleaned (before ++ (address ++ tail) ++ after) = address ++ kept := by
  obtain ⟨hblank, hslash⟩ : isBlank last = false ∧ (last == '/') = false := by
    simpa [isSolid] using hlast
  obtain ⟨rest, rfl⟩ := List.head?_eq_some_iff.1 hhead
  have hkeeps : ∀ drop : Char → Bool, drop last = false → ∀ behind : List Char,
      dropEndWhile drop (first :: rest ++ behind) = first :: rest ++ dropEndWhile drop behind :=
    fun drop hdrop behind => dropEndWhile_append (List.cons_ne_nil _ _)
      (fun c hc => Option.some.inj (hgetLast.symm.trans hc) ▸ hdrop) behind
  have htrim : trim (before ++ (first :: rest ++ tail) ++ after) =
      first :: rest ++ dropEndWhile isBlank tail := by
    rw [trim, List.append_assoc, List.dropWhile_append_of_pos hbefore, List.append_assoc,
      List.cons_append, List.dropWhile_cons_of_neg (by simp [hfirst]), ← List.cons_append,
      hkeeps isBlank hblank, dropEndWhile_append_of_forall hafter]
  refine ⟨dropEndWhile (· == '/') (dropEndWhile isBlank tail),
    (isPrefix_dropEndWhile _ _).trans (isPrefix_dropEndWhile _ _), ?_⟩
  rw [cleaned, htrim, hkeeps (· == '/') hslash]

theorem StartsAtEnd.of_prefix {kept : List Char} (h : StartsAtEnd tail) (hkept : kept <+: tail) :
    StartsAtEnd kept := by
  intro c hc
  obtain ⟨rest, rfl⟩ := hkept
  exact h c (List.mem_head?_append_of_mem_head? hc)

/-- Before the path no name is found, so that the first one in the path is read. -/
theorem parse_of_isFirst {text : String} {path : List Char}
    (htext : cleaned text.toList = "https://www.notion.so".toList ++ '/' :: path)
    (hfirst : IsFirst name ('/' :: path)) :
    ∃ id, parse text = .ok id ∧ id.digits = digitsOf name := by
  have hhost : inUrl? ("https://www.notion.so".toList ++ '/' :: path) = inUrl? ('/' :: path) := rfl
  have hmentions : "notion".toList <:+: cleaned text.toList :=
    ⟨"https://www.".toList, ".so".toList ++ '/' :: path, htext.symm⟩
  have hfound : inUrl? (cleaned text.toList) = some (unhyphenated name) := by
    rw [htext, hhost]
    exact inUrl?_eq_some_iff.2 ⟨name, hfirst, rfl⟩
  obtain ⟨found, hfound, hdigits⟩ := inUrl?_eq_some_iff.1 hfound
  obtain ⟨id, hread, hid⟩ := parse_of_names (Or.inr ⟨hmentions, hfound⟩)
  exact ⟨id, hread, hid.trans (congrArg lower hdigits)⟩

/-- The address of a page with a slug and a name, and the rest of the address. -/
def pageAddress (slug name tail : String) : String :=
  "https://www.notion.so/" ++ slug ++ "-" ++ name ++ tail

/-- The address of a page is read as the identifier after the slug, whatever the slug, the rest of
the address, and the white space around it. -/
theorem parse_pageAddress {before slug name tail after : String}
    (hbefore : ∀ c ∈ before.toList, isBlank c = true) (hslug : IsWithinSegment slug.toList)
    (hname : IsIdName name.toList) (htail : StartsAtEnd tail.toList)
    (hafter : ∀ c ∈ after.toList, isBlank c = true) :
    ∃ id, parse (before ++ pageAddress slug name tail ++ after) = .ok id ∧
      id.text = String.ofList (digitsOf name.toList) := by
  obtain ⟨last, hlast, hsolid⟩ := hname.exists_last
  have hgetLast :
      ("https://www.notion.so/" ++ slug ++ "-" ++ name).toList.getLast? = some last := by
    rw [String.toList_append, List.getLast?_append, hlast, Option.some_or]
  obtain ⟨kept, hkept, hcleaned⟩ := @exists_cleaned_append tail.toList before.toList _ after.toList
    'h' last (by simp) rfl hgetLast hsolid hbefore hafter
  have hpath : ∀ behind : List Char,
      ("https://www.notion.so/" ++ slug ++ "-" ++ name).toList ++ behind =
        "https://www.notion.so".toList ++ '/' :: (slug.toList ++ '-' :: (name.toList ++ behind)) :=
    fun behind => by simp
  have htext : (before ++ pageAddress slug name tail ++ after).toList = before.toList ++
      (("https://www.notion.so/" ++ slug ++ "-" ++ name).toList ++ tail.toList) ++
        after.toList := by
    unfold pageAddress
    simp only [String.toList_append]
  rw [← htext, hpath] at hcleaned
  have hfirst := isFirst_after_slug hslug hname (htail.of_prefix hkept)
  obtain ⟨id, hread, hid⟩ := parse_of_isFirst hcleaned hfirst
  exact ⟨id, hread, congrArg String.ofList hid⟩

/-- A slug with a name of another identifier in it, and with groups that go on in the name. -/
theorem parse_pageAddress_sample : ∃ id,
    parse ("\n " ++ pageAddress "ffffffffffffffffffffffffffffffff-89abcdef-cdef-0123-4567"
        "0123456789ABcdef0123456789aBcDeF" "/?p=/ffffffffffffffffffffffffffffffff#/ " ++ "\t") =
      .ok id ∧ id.text = "0123456789abcdef0123456789abcdef" := by
  obtain ⟨id, hread, hid⟩ := @parse_pageAddress "\n "
    "ffffffffffffffffffffffffffffffff-89abcdef-cdef-0123-4567" "0123456789ABcdef0123456789aBcDeF"
    "/?p=/ffffffffffffffffffffffffffffffff#/ " "\t" (by decide)
    (by unfold IsWithinSegment; decide +kernel)
    (Or.inl ⟨by decide +kernel, by decide +kernel⟩)
    (fun c hc => Or.inl (Option.some.inj hc).symm) (by decide)
  exact ⟨id, hread, hid.trans (by decide +kernel)⟩

end Identifier

end NotionProject
