import NotionProject.Proofs.Url.ReadBack
import Mathlib.Data.List.DropRight

/-!
# Texts added to URLs

An address is made by writing a slash and some names after the text of a URL (`Url.base`). Where
the names come to stand depends on the last part that the URL has: `Url.joined` puts them into the
fragment if there is one, else into the query, and only else into the path. The text is that of the
URL so joined (`chars_joined`), which is in normal form (`isNormal_joined`) and so is what is read
from it.
-/

namespace NotionProject

open Percent (IsEncoded)

namespace Url

/-! ## Names -/

/-- The characters of names in the path of an endpoint. -/
def nameChars : List Char :=
  "abcdefghijklmnopqrstuvwxyz0123456789-".toList

/-- The text is a name in the path of an endpoint. -/
def IsName (segment : List Char) : Prop :=
  segment ≠ [] ∧ ∀ c ∈ segment, c ∈ nameChars

variable {segment : List Char}

/-- A name has no character that is reserved. -/
theorem IsName.isEncoded (h : IsName segment) {reserved : Char → Bool}
    (hr : ∀ c ∈ nameChars, reserved c = false) : IsEncoded reserved segment := by
  have hascii : ∀ c ∈ nameChars, Domain.isAscii c = true := by decide
  exact fun c hc => ⟨hascii c (h.2 c hc), hr c (h.2 c hc)⟩

theorem IsName.notMem (h : IsName segment) {mark : Char} (hm : mark ∉ nameChars) :
    mark ∉ segment :=
  fun hc => hm (h.2 mark hc)

/-- A name stands for no other place: it has neither points nor percent signs. -/
theorem IsName.isSegment (h : IsName segment) : IsSegment segment := by
  have hlower : (String.ofList segment).toLower.toList = segment := by
    have key : ∀ c ∈ nameChars, c.toLower = c := by decide
    change ((String.ofList segment).map Char.toLower).toList = segment
    rw [String.toList_map, String.toList_ofList,
      List.map_congr_left fun c hc => key c (h.2 c hc), List.map_id']
  have hother : ∀ place : String, (∃ c ∈ place.toList, c ∉ nameChars) →
      ((String.ofList segment).toLower == place) = false := by
    rintro _ ⟨c, hc, hn⟩
    rw [beq_eq_false_iff_ne]
    rintro rfl
    exact hn (h.2 c (hlower ▸ hc))
  have hpoint : ('.' : Char) ∉ nameChars := by decide
  have hpercent : ('%' : Char) ∉ nameChars := by decide
  exact
    { encoded := h.isEncoded (by decide)
      slash := h.notMem (by decide)
      backslash := h.notMem (by decide)
      here := by
        simp only [isHere, hother "." ⟨'.', by decide, hpoint⟩,
          hother "%2e" ⟨'%', by decide, hpercent⟩, Bool.or_false]
      above := by
        simp only [isAbove, hother ".." ⟨'.', by decide, hpoint⟩,
          hother "%2e%2e" ⟨'%', by decide, hpercent⟩, hother ".%2e" ⟨'%', by decide, hpercent⟩,
          hother "%2e." ⟨'%', by decide, hpercent⟩, Bool.or_false] }

/-! ## The joined URL -/

/-- A part of a URL without slashes at its end, and a slash and the names after it. -/
def extended (part : List Char) (names : List (List Char)) : List Char :=
  Text.dropEndWhile (· == '/') part ++ '/' :: ['/'].intercalate names

/-- The URL with the names in its last part. -/
def joined (url : Url) (names : List (List Char)) : Url :=
  match url.fragment, url.query with
  | some fragment, _ => { url with fragment := some (extended fragment names) }
  | none, some query => { url with query := some (extended query names) }
  | none, none => { url with path := url.path.rdropWhile List.isEmpty ++ names }

variable {url : Url} {names : List (List Char)}

theorem extended_append_cons {c : Char} (h : (c == '/') = false) (before part : List Char) :
    extended (before ++ c :: part) names = before ++ c :: extended part names := by
  have hdrop := @Text.dropEndWhile_append_cons (· == '/') c h before part
  rw [extended, hdrop, List.append_assoc, List.cons_append, extended]

/-- A part with names after it is another part. -/
theorem extended_ne_self (hne : names ≠ []) (hn : ∀ name ∈ names, IsName name)
    {part : List Char} : extended part names ≠ part := by
  obtain ⟨name, others, rfl⟩ := List.exists_cons_of_ne_nil hne
  obtain ⟨⟨hname, hchars⟩, -⟩ := List.forall_mem_cons.1 hn
  obtain ⟨c, rest, rfl⟩ := List.exists_cons_of_ne_nil hname
  have hc : (c == '/') = false := by
    have key : ∀ c ∈ nameChars, (c == '/') = false := by decide
    exact key c (hchars c List.mem_cons_self)
  obtain ⟨tail, htail⟩ : ∃ tail, ['/'].intercalate ((c :: rest) :: others) = c :: tail := by
    cases others <;> simp
  intro he
  rw [extended, htail] at he
  -- a name does not start with a slash, so the part keeps it and what stands before it: the part
  -- without slashes at its end would be longer than itself
  have hdrop := @Text.dropEndWhile_append_cons (· == '/') c hc
    (Text.dropEndWhile (· == '/') part ++ ['/']) tail
  rw [List.append_assoc, List.singleton_append, he] at hdrop
  have hlength := congrArg List.length hdrop
  simp at hlength

@[simp] theorem secure_joined : (url.joined names).secure = url.secure := by
  unfold joined
  split <;> rfl

@[simp] theorem userInfo_joined : (url.joined names).userInfo = url.userInfo := by
  unfold joined
  split <;> rfl

@[simp] theorem host_joined : (url.joined names).host = url.host := by
  unfold joined
  split <;> rfl

@[simp] theorem port_joined : (url.joined names).port = url.port := by
  unfold joined
  split <;> rfl

/-- With a query or a fragment, the path stays as it is. -/
theorem pathChars_joined_of_ne_none (h : url.query ≠ none ∨ url.fragment ≠ none) :
    (url.joined names).pathChars = url.pathChars := by
  unfold joined
  split
  · rfl
  · rfl
  · next hfragment hquery => simp [hfragment, hquery] at h

/-- Without a query and a fragment the names are put behind the path, in place of what is empty at its
end. -/
theorem joined_of_eq_none (hquery : url.query = none) (hfragment : url.fragment = none) :
    url.joined names = { url with path := url.path.rdropWhile List.isEmpty ++ names } := by
  rw [joined, hquery, hfragment]

/-- Slashes at the end of a path are empty segments. -/
theorem dropEndWhile_flatMap {path : List (List Char)} (h : ∀ segment ∈ path, '/' ∉ segment) :
    Text.dropEndWhile (· == '/') (path.flatMap fun segment => '/' :: segment) =
      (path.rdropWhile List.isEmpty).flatMap fun segment => '/' :: segment := by
  have hdrop : ∀ text, Text.dropEndWhile (· == '/') text = text.rdropWhile (· == '/') :=
    fun _ => rfl
  induction path using List.reverseRecOn with
  | nil => rfl
  | append_singleton path segment ih =>
    obtain ⟨hpath, hsegment⟩ := List.forall_mem_append.1 h
    have hslash : '/' ∉ segment := hsegment segment List.mem_cons_self
    rw [hdrop] at ih ⊢
    rw [List.flatMap_append, List.flatMap_singleton]
    rcases List.eq_nil_or_concat segment with rfl | ⟨start, c, rfl⟩
    · rw [List.rdropWhile_concat_pos _ _ _ rfl, List.rdropWhile_concat_pos _ _ _ rfl, ih hpath]
    · have hc : c ≠ '/' := fun he => hslash (by simp [he])
      have hlast : ∀ before : List Char, before ++ '/' :: start.concat c =
          before ++ '/' :: start ++ [c] := by simp
      rw [hlast, List.rdropWhile_concat_neg _ _ _ (by simpa using hc),
        List.rdropWhile_concat_neg _ _ _ (by simp), List.flatMap_append, List.flatMap_singleton,
        hlast]

/-- Without a query and a fragment, the names come after the path. -/
theorem pathChars_joined (h : url.IsNormal) (hne : names ≠ []) (hquery : url.query = none)
    (hfragment : url.fragment = none) :
    (url.joined names).pathChars = extended url.pathChars names := by
  rw [joined_of_eq_none hquery hfragment, extended, pathChars, pathChars,
    dropEndWhile_flatMap fun segment hs => (h.path segment hs).slash, List.flatMap_append,
    flatMap_slash hne]

/-! ## The text of the joined URL -/

/-- The text before the path does not end in a slash. -/
theorem exists_originChars_eq (h : url.IsNormal) :
    ∃ before c, url.originChars = before ++ [c] ∧ (c == '/') = false := by
  have hends : ∀ c ∈ authorityChars url.userInfo url.host url.port, endsAuthority true c = false :=
    not_endsAuthority_of_mem h.userInfo h.host
  rcases List.eq_nil_or_concat (authorityChars url.userInfo url.host url.port) with
    hnil | ⟨start, c, hchars⟩
  · exact absurd hnil (authorityChars_ne_nil h.host)
  · have hc : endsAuthority true c = false := hends c (hchars ▸ by simp)
    simp only [endsAuthority, Bool.or_eq_false_iff] at hc
    refine ⟨url.scheme ++ ':' :: '/' :: '/' :: start, c, ?_, hc.1.1.1⟩
    rw [originChars_eq, hchars]
    simp

/-- The text of the joined URL is the text of the URL without slashes at its end, and a slash and
the names after it. -/
theorem chars_joined (h : url.IsNormal) (hne : names ≠ []) :
    (url.joined names).chars = extended url.chars names := by
  cases hfragment : url.fragment with
  | some fragment =>
    simp only [joined, hfragment, chars, marked]
    rw [extended_append_cons rfl]
    rfl
  | none =>
    cases hquery : url.query with
    | some query =>
      simp only [joined, hfragment, hquery, chars, marked, List.append_nil]
      rw [extended_append_cons rfl]
      rfl
    | none =>
      -- nothing of the origin is dropped, even if the path is all slashes
      obtain ⟨before, c, horigin, hc⟩ := exists_originChars_eq h
      calc (url.joined names).chars
          = url.originChars ++ (url.joined names).pathChars := by
            rw [joined_of_eq_none hquery hfragment]
            simp only [chars, marked, hfragment, hquery, List.append_nil]
            rfl
        _ = before ++ c :: extended url.pathChars names := by
            rw [pathChars_joined h hne hquery hfragment, horigin, List.append_assoc,
              List.singleton_append]
        _ = extended (before ++ c :: url.pathChars) names := (extended_append_cons hc _ _).symm
        _ = extended url.chars names := by
            simp only [chars, marked, hfragment, hquery, List.append_nil, horigin,
              List.append_assoc, List.singleton_append]

theorem isEncoded_extended {reserved : Char → Bool} {part : List Char}
    (h : IsEncoded reserved part) (hslash : reserved '/' = false)
    (hr : ∀ c ∈ nameChars, reserved c = false) (hn : ∀ name ∈ names, IsName name) :
    IsEncoded reserved (extended part names) := by
  have hmark : Domain.isAscii '/' = true ∧ reserved '/' = false := ⟨by decide, hslash⟩
  refine List.forall_mem_append.2 ⟨fun c hc => ?_, List.forall_mem_cons.2 ⟨hmark, ?_⟩⟩
  · exact h c ((Text.isPrefix_dropEndWhile _ part).subset hc)
  · exact Text.forall_mem_intercalate hmark fun name hm => (hn name hm).isEncoded hr

/-- A URL in normal form stays so with the names behind it. -/
theorem isNormal_joined (h : url.IsNormal) (hne : names ≠ []) (hn : ∀ name ∈ names, IsName name) :
    (url.joined names).IsNormal := by
  unfold joined
  split
  · next fragment hfragment =>
    refine { h with fragment := ?_ }
    rintro _ ⟨⟩
    exact isEncoded_extended (h.fragment fragment hfragment) (by decide) (by decide) hn
  · next query _ hquery =>
    refine { h with query := ?_ }
    rintro _ ⟨⟩
    exact isEncoded_extended (h.query query hquery) (by decide) (by decide) hn
  · refine { h with path_ne_nil := by simp [hne], path := ?_ }
    refine List.forall_mem_append.2 ⟨fun segment hs => ?_, fun name hm => (hn name hm).isSegment⟩
    exact h.path segment (List.IsPrefix.subset (List.rdropWhile_prefix _ _) hs)

end Url

end NotionProject
