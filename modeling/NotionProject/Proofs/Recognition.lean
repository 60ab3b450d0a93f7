import Mathlib.Data.List.DropRight
import NotionProject.Proofs.CanonicalForm

/-!
# Which texts name an identifier

A name of an identifier is thirty-two digits (`Identifier.IsBare`), or five groups of them with
hyphens between (`Identifier.IsHyphenated`). A text names an identifier (`Identifier.Names`) if it
is nothing but a name, as it is, in braces or as a URN (`Identifier.IsAlone`), or if it mentions the
service and a name is found in it: after a slash or a hyphen, at the end of a path segment, and
before any other such place (`Identifier.IsFirst`).

The scanners for digits and groups take exactly what these descriptions allow
(`takes_takeBare`, `takes_takeHyphenated`). From them every reader of the parser is known by an
"exactly if": of a text that is one name (`standalone?_eq_some_iff`), of a name at the end of a
segment (`atSegmentEnd?_eq_some_iff`), and of the search from place to place (`inUrl?_eq_some_iff`,
by induction on the text: either a name stands at its start, or the search goes on one character
later). With the white space and the slashes that are taken away before (`cleaned_eq_iff`), these
say what is read and what is refused (`Identifier.parse_recognizes`).
-/

namespace NotionProject

namespace Text

/-! ## Groups of digits -/

/-- The text is groups of digits of the given lengths with a hyphen between each two. -/
def IsGrouped (lengths : List Nat) (text : List Char) : Prop :=
  ∃ groups : List (List Char), groups.map List.length = lengths ∧
    (∀ group ∈ groups, ∀ c ∈ group, isHexDigit c = true) ∧ ['-'].intercalate groups = text

/-- The text without its hyphens. -/
def unhyphenated (text : List Char) : List Char :=
  text.filter (· != '-')

theorem bne_hyphen_of_isHexDigit {c : Char} (h : isHexDigit c = true) : (c != '-') = true :=
  of_isHexDigit (p := fun c => (c != '-') = true) (by decide) h

theorem unhyphenated_eq_self {text : List Char} (h : ∀ c ∈ text, isHexDigit c = true) :
    unhyphenated text = text :=
  List.filter_eq_self.2 fun c hc => bne_hyphen_of_isHexDigit (h c hc)

/-- Without the hyphens between them the groups are their digits. -/
theorem unhyphenated_intercalate : ∀ {groups : List (List Char)},
    (∀ group ∈ groups, ∀ c ∈ group, isHexDigit c = true) →
      unhyphenated (['-'].intercalate groups) = groups.flatten
  | [], _ => rfl
  | [group], h => by simpa using unhyphenated_eq_self (h group List.mem_cons_self)
  | group :: next :: groups, h => by
    obtain ⟨hgroup, hgroups⟩ := List.forall_mem_cons.1 h
    have ih := unhyphenated_intercalate hgroups
    have hfirst := unhyphenated_eq_self hgroup
    rw [List.intercalate_cons_cons, unhyphenated, List.filter_append, List.filter_append]
    exact congrArg₂ (· ++ ·) ((List.append_nil _).trans hfirst) ih

/-- What is taken are groups at the start of the text. -/
theorem exists_groups_of_takeGroups {lengths : List Nat} {text digits rest : List Char}
    (h : takeGroups lengths text = some (digits, rest)) :
    ∃ groups : List (List Char), groups.map List.length = lengths ∧
      (∀ group ∈ groups, ∀ c ∈ group, isHexDigit c = true) ∧
      ['-'].intercalate groups ++ rest = text ∧ groups.flatten = digits := by
  induction lengths generalizing text digits with
  | nil =>
    obtain ⟨rfl, rfl⟩ := Prod.mk.inj (Option.some.inj h)
    exact ⟨[], rfl, List.forall_mem_nil _, rfl, rfl⟩
  | cons n more ih =>
    cases more with
    | nil =>
      obtain ⟨rfl, hlength, hdigits⟩ := eq_append_of_takeHex h
      exact ⟨[digits], by simp [hlength], by simpa using hdigits, by simp, by simp⟩
    | cons m more =>
      rw [takeGroups_cons_cons] at h
      split at h
      next first after hfirst =>
        obtain ⟨⟨others, left⟩, hothers, hfound⟩ := Option.map_eq_some_iff.1 h
        obtain ⟨rfl, rfl⟩ := Prod.mk.inj hfound
        obtain ⟨rfl, hlength, hdigits⟩ := eq_append_of_takeHex hfirst
        obtain ⟨groups, hlengths, hgroups, rfl, rfl⟩ := ih hothers
        obtain ⟨next, groups, rfl⟩ := List.exists_cons_of_ne_nil (l := groups) (by
          rintro rfl
          cases hlengths)
        refine ⟨first :: next :: groups, by simp [hlength, ← hlengths],
          List.forall_mem_cons.2 ⟨hdigits, hgroups⟩, ?_, rfl⟩
        simp [List.intercalate_cons_cons]
      next => cases h

/-- The scanner takes exactly the names of a form off the start of a text and gives their digits. -/
def Takes (take : List Char → Option (List Char × List Char)) (isName : List Char → Prop) : Prop :=
  ∀ text digits rest, take text = some (digits, rest) ↔
    ∃ name, isName name ∧ name ++ rest = text ∧ unhyphenated name = digits

theorem takes_takeGroups (lengths : List Nat) : Takes (takeGroups lengths) (IsGrouped lengths) := by
  intro text digits rest
  constructor
  · intro h
    obtain ⟨groups, hlengths, hgroups, htext, hdigits⟩ := exists_groups_of_takeGroups h
    exact ⟨_, ⟨groups, hlengths, hgroups, rfl⟩, htext,
      (unhyphenated_intercalate hgroups).trans hdigits⟩
  · rintro ⟨_, ⟨groups, rfl, hgroups, rfl⟩, rfl, rfl⟩
    rw [takeGroups_intercalate hgroups, unhyphenated_intercalate hgroups]

/-- A scanner takes a whole text exactly if it is one name. -/
theorem Takes.takeAll_eq_some_iff {take : List Char → Option (List Char × List Char)}
    {isName : List Char → Prop} (h : Takes take isName) {text digits : List Char} :
    takeAll take text = some digits ↔ isName text ∧ unhyphenated text = digits := by
  constructor
  · intro htake
    obtain ⟨name, hname, htext, hdigits⟩ := (h _ _ _).1 (eq_some_of_takeAll htake)
    rw [List.append_nil] at htext
    exact htext ▸ ⟨hname, hdigits⟩
  · rintro ⟨hname, hdigits⟩
    have htake : take text = some (digits, []) :=
      (h _ _ _).2 ⟨text, hname, List.append_nil text, hdigits⟩
    rw [takeAll, htake]

/-! ## White space around a text -/

/-- What is kept of a text ends where the characters of a class at its end begin. -/
structure IsCut (drop : Char → Bool) (text kept : List Char) : Prop where
  exists_dropped : ∃ dropped, kept ++ dropped = text ∧ ∀ c ∈ dropped, drop c = true
  last : ∀ c ∈ kept.getLast?, drop c = false

/-- What is kept of a text begins and ends where the white space around it does. -/
structure IsTrimmed (text kept : List Char) : Prop where
  exists_around : ∃ before after, before ++ (kept ++ after) = text ∧
    (∀ c ∈ before, isBlank c = true) ∧ ∀ c ∈ after, isBlank c = true
  head : ∀ c ∈ kept.head?, isBlank c = false
  last : ∀ c ∈ kept.getLast?, isBlank c = false

theorem isCut_dropEndWhile (drop : Char → Bool) (text : List Char) :
    IsCut drop text (dropEndWhile drop text) where
  exists_dropped := ⟨text.rtakeWhile drop, List.rdropWhile_append_rtakeWhile,
    fun _ hc => List.mem_rtakeWhile_imp hc⟩
  last := by
    intro c hc
    rw [dropEndWhile, List.getLast?_reverse, Option.mem_def] at hc
    simpa [hc] using List.head?_dropWhile_not drop text.reverse

/-- Nothing of what ends with a character that stays is dropped. -/
theorem dropEndWhile_append {drop : Char → Bool} {text : List Char} (hne : text ≠ [])
    (h : ∀ c ∈ text.getLast?, drop c = false) (after : List Char) :
    dropEndWhile drop (text ++ after) = text ++ dropEndWhile drop after := by
  obtain ⟨before, c, rfl⟩ := (List.eq_nil_or_concat' text).resolve_left hne
  rw [List.append_assoc, List.append_assoc]
  exact dropEndWhile_append_cons (h c (by simp)) before after

/-- What is cut off at the end is all that can be. -/
theorem dropEndWhile_eq_iff {drop : Char → Bool} {text kept : List Char} :
    dropEndWhile drop text = kept ↔ IsCut drop text kept := by
  refine ⟨fun h => h ▸ isCut_dropEndWhile drop text, ?_⟩
  rintro ⟨⟨dropped, rfl, hdropped⟩, hlast⟩
  rw [dropEndWhile_append_of_forall hdropped]
  by_cases hne : kept = []
  · rw [hne]
    rfl
  · have hkept := dropEndWhile_append hne hlast []
    rwa [List.append_nil, show dropEndWhile drop [] = [] from rfl, List.append_nil] at hkept

/-- What is trimmed is what stands between blanks, and neither begins nor ends with one. -/
theorem trim_eq_iff {text kept : List Char} : trim text = kept ↔ IsTrimmed text kept := by
  constructor
  · rintro rfl
    have hcut := isCut_dropEndWhile isBlank (text.dropWhile isBlank)
    obtain ⟨after, htext, hafter⟩ := hcut.exists_dropped
    refine ⟨⟨text.takeWhile isBlank, after, ?_, fun c hc => List.mem_takeWhile_imp hc, hafter⟩,
      fun c hc => ?_, hcut.last⟩
    · rw [trim, htext, List.takeWhile_append_dropWhile]
    · -- the first character that is kept is the first one after the white space
      obtain ⟨rest, hrest⟩ := List.head?_eq_some_iff.1 (Option.mem_def.1 hc)
      have hhead : (text.dropWhile isBlank).head? = some c := by
        rw [← htext, show dropEndWhile isBlank (text.dropWhile isBlank) = c :: rest from hrest]
        rfl
      simpa [hhead] using List.head?_dropWhile_not isBlank text
  · rintro ⟨⟨before, after, rfl, hbefore, hafter⟩, hhead, hlast⟩
    rw [trim, List.dropWhile_append_of_pos hbefore]
    cases kept with
    | nil =>
      have hnil : after.dropWhile isBlank = [] := List.dropWhile_eq_nil_iff.2 hafter
      rw [List.nil_append, hnil]
      rfl
    | cons c rest =>
      rw [List.cons_append, List.dropWhile_cons_of_neg (by simp [hhead c rfl]), ← List.cons_append]
      exact dropEndWhile_eq_iff.2 ⟨⟨after, rfl, hafter⟩, hlast⟩

end Text

namespace Identifier

open Text

variable {name text digits rest : List Char}

/-! ## Names -/

/-- Thirty-two digits. -/
def IsBare (name : List Char) : Prop :=
  name.length = 32 ∧ ∀ c ∈ name, isHexDigit c = true

/-- Groups of eight, four, four, four and twelve digits with hyphens between them. -/
def IsHyphenated (name : List Char) : Prop :=
  IsGrouped [8, 4, 4, 4, 12] name

/-- A name of an identifier: its digits, bare or in groups. -/
def IsIdName (name : List Char) : Prop :=
  IsBare name ∨ IsHyphenated name

/-- The digits of the identifier with the name. -/
def digitsOf (name : List Char) : List Char :=
  lower (unhyphenated name)

theorem takes_takeBare : Takes takeBare IsBare := by
  intro text digits rest
  constructor
  · intro h
    obtain ⟨rfl, hname⟩ := eq_append_of_takeHex h
    exact ⟨digits, hname, rfl, unhyphenated_eq_self hname.2⟩
  · rintro ⟨name, hname, rfl, rfl⟩
    have htake := takeHex_append hname.2 rest
    rw [hname.1] at htake
    rwa [unhyphenated_eq_self hname.2]

theorem takes_takeHyphenated : Takes takeHyphenated IsHyphenated :=
  takes_takeGroups groupLengths

/-- The first group of a name is its first eight characters. -/
theorem IsHyphenated.exists_first (h : IsHyphenated name) : ∃ first more,
    first.length = 8 ∧ (∀ c ∈ first, isHexDigit c = true) ∧ first ++ '-' :: more = name := by
  obtain ⟨groups, hlengths, hgroups, rfl⟩ := h
  obtain ⟨first, others, rfl, hlength, hothers⟩ := List.map_eq_cons_iff.1 hlengths
  obtain ⟨next, others, rfl, -, -⟩ := List.map_eq_cons_iff.1 hothers
  refine ⟨first, ['-'].intercalate (next :: others), hlength, hgroups first List.mem_cons_self, ?_⟩
  rw [List.intercalate_cons_cons, List.append_assoc, List.singleton_append]

/-- What starts with groups does not start with thirty-two digits. -/
theorem IsHyphenated.takeBare_eq_none (h : IsHyphenated name) (rest : List Char) :
    takeBare (name ++ rest) = none := by
  obtain ⟨first, more, hlength, -, rfl⟩ := h.exists_first
  rw [List.append_assoc]
  exact takeHex_eq_none (by omega) rfl _

/-- A name is made of digits and hyphens. -/
theorem IsIdName.isHex_or_hyphen (h : IsIdName name) :
    ∀ c ∈ name, isHexDigit c = true ∨ c = '-' := by
  rcases h with hbare | ⟨groups, -, hgroups, rfl⟩
  · exact fun c hc => Or.inl (hbare.2 c hc)
  · exact forall_mem_intercalate (Or.inr rfl) fun group hgroup c hc =>
      Or.inl (hgroups group hgroup c hc)

/-- Without its hyphens a name is thirty-two digits. -/
theorem IsIdName.isHex (h : IsIdName name) :
    (unhyphenated name).length = 32 ∧ ∀ c ∈ unhyphenated name, isHexDigit c = true := by
  rcases h with hbare | hhyphenated
  · rwa [unhyphenated_eq_self hbare.2]
  · exact isHex_of_takeGroups
      ((takes_takeHyphenated _ _ []).2 ⟨name, hhyphenated, List.append_nil name, rfl⟩)

/-- Its digits are those of an identifier. -/
theorem IsIdName.exists_ofDigits? (h : IsIdName name) :
    ∃ id, ofDigits? (unhyphenated name) = some id ∧ id.digits = digitsOf name := by
  obtain ⟨hlength, hdigits⟩ := h.isHex
  exact ⟨_, dif_pos ⟨hlength, List.all_eq_true.2 hdigits⟩, rfl⟩

/-- A reader that gives the digits of some name gives nothing exactly if there is no such name. -/
theorem eq_none_iff_of_eq_some_iff {found : Option (List Char)} {isFound : List Char → Prop}
    (h : ∀ digits, found = some digits ↔ ∃ name, isFound name ∧ unhyphenated name = digits) :
    found = none ↔ ¬∃ name, isFound name := by
  rw [Option.eq_none_iff_forall_ne_some]
  constructor
  · rintro hnone ⟨name, hname⟩
    exact hnone _ ((h _).2 ⟨name, hname, rfl⟩)
  · intro hnone digits hdigits
    obtain ⟨name, hname, -⟩ := (h _).1 hdigits
    exact hnone ⟨name, hname⟩

/-! ## Texts that are one name -/

/-- The text is nothing but a name, as it is, in braces, or after the mark of a URN, which may be in
letters of either case. -/
inductive IsAlone (name : List Char) : List Char → Prop where
  | bare (h : IsBare name) : IsAlone name name
  | hyphenated (h : IsHyphenated name) : IsAlone name name
  | braced (h : IsHyphenated name) : IsAlone name ('\x7b' :: name ++ ['\x7d'])
  | urn {mark : List Char} (hmark : lower mark = "urn:uuid:".toList) (h : IsHyphenated name) :
      IsAlone name (mark ++ name)

theorem IsAlone.isIdName (h : IsAlone name text) : IsIdName name := by
  cases h with
  | bare h => exact Or.inl h
  | hyphenated h => exact Or.inr h
  | braced h => exact Or.inr h
  | urn _ h => exact Or.inr h

theorem unbraced?_eq_some_iff :
    unbraced? text = some name ↔ '\x7b' :: name ++ ['\x7d'] = text := by
  constructor
  · intro h
    unfold unbraced? at h
    split at h
    next inner =>
      split at h
      next hlast =>
        obtain ⟨before, rfl⟩ := List.getLast?_eq_some_iff.1 hlast
        obtain rfl := Option.some.inj h
        simp
      next => cases h
    next => cases h
  · rintro rfl
    simp [unbraced?]

theorem afterUrn?_eq_some_iff : afterUrn? text = some name ↔
    ∃ mark, lower mark = "urn:uuid:".toList ∧ mark ++ name = text := by
  rw [afterUrn?]
  constructor
  · intro h
    split at h
    next hmark =>
      obtain rfl := Option.some.inj h
      exact ⟨text.take 9, hmark, List.take_append_drop 9 text⟩
    next => cases h
  · rintro ⟨mark, hmark, rfl⟩
    have hlength : mark.length = 9 := by simpa [lower] using congrArg List.length hmark
    rw [List.take_left' hlength, List.drop_left' hlength]
    exact if_pos hmark

/-- A text that starts with no digit is no name as it is. -/
theorem takeAll_eq_none_of_start {c : Char} (h : isHexDigit c = false) (text : List Char) :
    takeAll takeBare (c :: text) = none ∧ takeAll takeHyphenated (c :: text) = none := by
  have hbare : takeBare (c :: text) = none := @takeHex_eq_none 32 [] c (by decide) h text
  have hfirst : takeHex 8 (c :: text) = none := @takeHex_eq_none 8 [] c (by decide) h text
  refine ⟨takeAll_eq_none hbare, takeAll_eq_none ?_⟩
  rw [takeHyphenated, groupLengths, takeGroups_cons_cons, hfirst]

/-- The mark of a URN starts with no digit and no brace. -/
theorem exists_start_of_urn {mark : List Char} (h : lower mark = "urn:uuid:".toList) :
    ∃ c more, mark = c :: more ∧ isHexDigit c = false ∧ c ≠ '\x7b' := by
  cases mark with
  | nil => cases h
  | cons c more =>
    have hc : c.toLower = 'u' := (List.cons.inj h).1
    refine ⟨c, more, rfl, ?_, ?_⟩
    · rw [← isHexDigit_toLower, hc]
      rfl
    · rintro rfl
      cases hc

/-- Of the four forms that are tried one after the other the first ones do not fit where a later one
does, so each is found. -/
theorem standalone?_eq_some_iff :
    standalone? text = some digits ↔ ∃ name, IsAlone name text ∧ unhyphenated name = digits := by
  have hbare : ∀ {text digits : List Char}, takeAll takeBare text = some digits ↔ _ :=
    takes_takeBare.takeAll_eq_some_iff
  have hhyphenated : ∀ {text digits : List Char}, takeAll takeHyphenated text = some digits ↔ _ :=
    takes_takeHyphenated.takeAll_eq_some_iff
  constructor
  · intro h
    simp only [standalone?, Option.or_eq_some_iff, Option.bind_eq_some_iff] at h
    rcases h with h | ⟨-, h | ⟨-, ⟨name, hname, h⟩ | ⟨-, name, hname, h⟩⟩⟩
    · obtain ⟨hname, hdigits⟩ := hbare.1 h
      exact ⟨text, .bare hname, hdigits⟩
    · obtain ⟨hname, hdigits⟩ := hhyphenated.1 h
      exact ⟨text, .hyphenated hname, hdigits⟩
    · obtain rfl := unbraced?_eq_some_iff.1 hname
      obtain ⟨hname, hdigits⟩ := hhyphenated.1 h
      exact ⟨name, .braced hname, hdigits⟩
    · obtain ⟨mark, hmark, rfl⟩ := afterUrn?_eq_some_iff.1 hname
      obtain ⟨hname, hdigits⟩ := hhyphenated.1 h
      exact ⟨name, .urn hmark hname, hdigits⟩
  · rintro ⟨name, hname, rfl⟩
    cases hname with
    | bare h => simp [standalone?, hbare.2 ⟨h, rfl⟩]
    | hyphenated h =>
      have hnone : takeBare text = none := by simpa using h.takeBare_eq_none []
      simp [standalone?, takeAll_eq_none hnone, hhyphenated.2 ⟨h, rfl⟩]
    | braced h =>
      obtain ⟨hnone, hnone'⟩ := @takeAll_eq_none_of_start '\x7b' rfl (name ++ ['\x7d'])
      have hbraced := unbraced?_eq_some_iff.2 (rfl : '\x7b' :: name ++ ['\x7d'] = _)
      rw [List.cons_append] at hbraced ⊢
      simp [standalone?, hnone, hnone', hbraced, hhyphenated.2 ⟨h, rfl⟩]
    | @urn mark hmark h =>
      have hurn := afterUrn?_eq_some_iff.2 ⟨mark, hmark, (rfl : mark ++ name = _)⟩
      obtain ⟨c, more, rfl, hc, hbrace⟩ := exists_start_of_urn hmark
      obtain ⟨hnone, hnone'⟩ := takeAll_eq_none_of_start hc (more ++ name)
      have hbraced : unbraced? (c :: (more ++ name)) = none := by
        cases hbraced : unbraced? (c :: (more ++ name)) with
        | none => rfl
        | some inner => exact absurd (List.cons.inj (unbraced?_eq_some_iff.1 hbraced)).1.symm hbrace
      rw [List.cons_append] at hurn ⊢
      simp [standalone?, hnone, hnone', hbraced, hurn, hhyphenated.2 ⟨h, rfl⟩]

/-! ## Names in a text -/

/-- A path segment ends where the text starts. -/
def StartsAtEnd (text : List Char) : Prop :=
  ∀ c ∈ text.head?, c = '/' ∨ c = '?' ∨ c = '#'

/-- The text starts with the name, and a path segment ends after it. -/
def StartsWith (name text : List Char) : Prop :=
  ∃ after, IsIdName name ∧ name ++ after = text ∧ StartsAtEnd after

/-- After `before` there is a slash or a hyphen, and then the name at the end of a path segment. -/
def IsAfter (before name text : List Char) : Prop :=
  ∃ mark rest, (mark = '/' ∨ mark = '-') ∧ before ++ mark :: rest = text ∧ StartsWith name rest

/-- The name is found before any other. -/
def IsFirst (name text : List Char) : Prop :=
  ∃ before, IsAfter before name text ∧
    ∀ earlier other, IsAfter earlier other text → before.length ≤ earlier.length

/-- A segment ends with the text or at a mark. -/
theorem endsSegment_iff : endsSegment text = true ↔ StartsAtEnd text := by
  cases text <;> simp [endsSegment, StartsAtEnd, or_assoc]

/-- What a scanner takes is looked at only if a path segment ends after it. -/
theorem closed_eq_some_iff {take : List Char → Option (List Char × List Char)}
    {isName : List Char → Prop} (h : Takes take isName) :
    ((take text).bind fun found => if endsSegment found.2 then some found.1 else none) =
        some digits ↔
      ∃ name after, isName name ∧ name ++ after = text ∧ StartsAtEnd after ∧
        unhyphenated name = digits := by
  rw [Option.bind_eq_some_iff]
  constructor
  · rintro ⟨⟨found, after⟩, htake, hclosed⟩
    obtain ⟨name, hname, htext, hdigits⟩ := (h _ _ _).1 htake
    split at hclosed
    next hends =>
      obtain rfl := Option.some.inj hclosed
      exact ⟨name, after, hname, htext, endsSegment_iff.1 hends, hdigits⟩
    next => cases hclosed
  · rintro ⟨name, after, hname, htext, hends, hdigits⟩
    exact ⟨(digits, after), (h _ _ _).2 ⟨name, hname, htext, hdigits⟩,
      if_pos (endsSegment_iff.2 hends)⟩

theorem atSegmentEnd?_eq_some_iff :
    atSegmentEnd? text = some digits ↔
      ∃ name, StartsWith name text ∧ unhyphenated name = digits := by
  rw [atSegmentEnd?, Option.or_eq_some_iff, closed_eq_some_iff takes_takeBare,
    closed_eq_some_iff takes_takeHyphenated]
  constructor
  · rintro (⟨name, after, hname, htext, hends, hdigits⟩ |
      ⟨-, name, after, hname, htext, hends, hdigits⟩)
    · exact ⟨name, ⟨after, Or.inl hname, htext, hends⟩, hdigits⟩
    · exact ⟨name, ⟨after, Or.inr hname, htext, hends⟩, hdigits⟩
  · rintro ⟨name, ⟨after, hbare | hhyphenated, rfl, hends⟩, hdigits⟩
    · exact Or.inl ⟨name, after, hbare, rfl, hends, hdigits⟩
    · refine Or.inr ⟨?_, name, after, hhyphenated, rfl, hends, hdigits⟩
      rw [hhyphenated.takeBare_eq_none after]
      rfl

theorem atSegmentEnd?_eq_none_iff :
    atSegmentEnd? text = none ↔ ¬∃ name, StartsWith name text :=
  eq_none_iff_of_eq_some_iff fun _ => atSegmentEnd?_eq_some_iff

theorem isAfter_cons_iff {before : List Char} {c : Char} : IsAfter before name (c :: text) ↔
    (before = [] ∧ (c = '/' ∨ c = '-') ∧ StartsWith name text) ∨
      ∃ more, before = c :: more ∧ IsAfter more name text := by
  constructor
  · rintro ⟨mark, rest, hmark, htext, hstarts⟩
    rcases List.append_eq_cons_iff.1 htext with ⟨rfl, hrest⟩ | ⟨more, rfl, hrest⟩
    · obtain ⟨rfl, rfl⟩ := List.cons.inj hrest
      exact Or.inl ⟨rfl, hmark, hstarts⟩
    · exact Or.inr ⟨more, rfl, mark, rest, hmark, hrest.symm, hstarts⟩
  · rintro (⟨rfl, hmark, hstarts⟩ | ⟨more, rfl, mark, rest, hmark, rfl, hstarts⟩)
    · exact ⟨c, text, hmark, rfl, hstarts⟩
    · exact ⟨mark, rest, hmark, rfl, hstarts⟩

/-- The first name in a text stands at its start, or there is none and it is the first one in the
text from the next character on. -/
theorem isFirst_cons_iff {c : Char} : IsFirst name (c :: text) ↔
    ((c = '/' ∨ c = '-') ∧ StartsWith name text) ∨
      (¬((c = '/' ∨ c = '-') ∧ ∃ other, StartsWith other text) ∧ IsFirst name text) := by
  constructor
  · rintro ⟨before, hafter, hfirst⟩
    rcases isAfter_cons_iff.1 hafter with ⟨-, hstart⟩ | ⟨more, rfl, hmore⟩
    · exact Or.inl hstart
    · refine Or.inr ⟨?_, more, hmore, fun earlier other h => ?_⟩
      · rintro ⟨hmark, other, hother⟩
        have hle := hfirst [] other (isAfter_cons_iff.2 (Or.inl ⟨rfl, hmark, hother⟩))
        simp at hle
      · simpa using hfirst (c :: earlier) other (isAfter_cons_iff.2 (Or.inr ⟨earlier, rfl, h⟩))
  · rintro (hstart | ⟨hnone, more, hmore, hfirst⟩)
    · exact ⟨[], isAfter_cons_iff.2 (Or.inl ⟨rfl, hstart⟩), fun _ _ _ => Nat.zero_le _⟩
    · refine ⟨c :: more, isAfter_cons_iff.2 (Or.inr ⟨more, rfl, hmore⟩), fun earlier other h => ?_⟩
      rcases isAfter_cons_iff.1 h with ⟨-, hmark, hother⟩ | ⟨rest, rfl, hrest⟩
      · exact absurd ⟨hmark, other, hother⟩ hnone
      · simpa using hfirst rest other hrest

/-- The search finds the first name. -/
theorem inUrl?_eq_some_iff :
    inUrl? text = some digits ↔ ∃ name, IsFirst name text ∧ unhyphenated name = digits := by
  induction text with
  | nil =>
    refine iff_of_false (by simp [inUrl?]) ?_
    rintro ⟨name, ⟨before, ⟨mark, rest, -, htext, -⟩, -⟩, -⟩
    simp at htext
  | cons c text ih =>
    simp only [isFirst_cons_iff]
    by_cases hmark : c = '/' ∨ c = '-'
    · rw [inUrl?, if_pos hmark, Option.or_eq_some_iff, atSegmentEnd?_eq_some_iff,
        atSegmentEnd?_eq_none_iff, ih]
      simp only [hmark, true_and, or_and_right, exists_or, and_assoc, exists_and_left]
    · simp [inUrl?, hmark, ih]

/-! ## What is read -/

/-- What is looked at of a text: what is kept without the white space around it, and of that without
the slashes at the end. -/
def IsCleaned (text kept : List Char) : Prop :=
  ∃ trimmed, IsTrimmed text trimmed ∧ IsCut (· == '/') trimmed kept

theorem cleaned_eq_iff {text kept : List Char} : cleaned text = kept ↔ IsCleaned text kept := by
  rw [cleaned, dropEndWhile_eq_iff]
  constructor
  · exact fun h => ⟨_, trim_eq_iff.1 rfl, h⟩
  · rintro ⟨trimmed, htrimmed, h⟩
    rwa [trim_eq_iff.2 htrimmed]

/-- What is looked at names an identifier: it is nothing but the name, or it mentions the service
and the name is the first one in it. -/
def Names (name kept : List Char) : Prop :=
  IsAlone name kept ∨ "notion".toList <:+: kept ∧ IsFirst name kept

theorem Names.isIdName (h : Names name text) : IsIdName name := by
  rcases h with halone | ⟨-, before, ⟨mark, rest, -, -, after, hname, -⟩, -⟩
  · exact halone.isIdName
  · exact hname

/-- A word is mentioned if it stands somewhere in the text. -/
theorem mentions_iff {word : List Char} : mentions word text = true ↔ word <:+: text := by
  induction text with
  | nil => simp [mentions]
  | cons c text ih =>
    rw [mentions, Bool.or_eq_true, ih, List.isPrefixOf_iff_prefix, List.infix_cons_iff]

/-- A text that is nothing but a name does not mention the service: it has no `o`. -/
theorem IsAlone.not_mentions (h : IsAlone name text) : ¬"notion".toList <:+: text := by
  have hname : 'o' ∉ name := by
    intro ho
    rcases h.isIdName.isHex_or_hyphen 'o' ho with hdigit | hhyphen
    · cases hdigit
    · cases hhyphen
  have htext : 'o' ∉ text := by
    cases h with
    | bare => exact hname
    | hyphenated => exact hname
    | braced => simpa using hname
    | urn hmark =>
      refine fun ho => (List.mem_append.1 ho).elim (fun ho => ?_) hname
      have hlower : 'o' ∈ lower _ := List.mem_map_of_mem ho
      rw [hmark] at hlower
      exact absurd hlower (by decide)
  exact fun hmentions => htext (hmentions.subset (by decide))

theorem parse_of_names {text : String} (h : Names name (cleaned text.toList)) :
    ∃ id, parse text = .ok id ∧ id.digits = digitsOf name := by
  obtain ⟨id, hid, hdigits⟩ := h.isIdName.exists_ofDigits?
  refine ⟨id, ?_, hdigits⟩
  unfold parse
  rcases h with halone | ⟨hmentions, hfirst⟩
  · simp [standalone?_eq_some_iff.2 ⟨name, halone, rfl⟩, hid]
  · have hnone : standalone? (cleaned text.toList) = none := by
      refine (eq_none_iff_of_eq_some_iff fun _ => standalone?_eq_some_iff).2 ?_
      rintro ⟨other, halone⟩
      exact halone.not_mentions hmentions
    simp only [hnone, Option.bind_none, if_pos (mentions_iff.2 hmentions),
      inUrl?_eq_some_iff.2 ⟨name, hfirst, rfl⟩, Option.bind_some, hid]

theorem parse_of_not_names {text : String} (h : ¬∃ name, Names name (cleaned text.toList)) :
    parse text = .error (if mentions "notion".toList (cleaned text.toList) then
      .notInUrl (String.ofList (cleaned text.toList)) else .unreadable text) := by
  obtain ⟨halone, hfirst⟩ := not_or.1 (mt exists_or.2 h)
  have hstandalone := (eq_none_iff_of_eq_some_iff fun _ => standalone?_eq_some_iff).2 halone
  unfold parse
  simp only [hstandalone, Option.bind_none]
  split
  next hmentions =>
    have hnone : inUrl? (cleaned text.toList) = none := by
      refine (eq_none_iff_of_eq_some_iff fun _ => inUrl?_eq_some_iff).2 ?_
      rintro ⟨name, hname⟩
      exact hfirst ⟨name, mentions_iff.1 hmentions, hname⟩
    rw [hnone, Option.bind_none]
  next => rfl

/-- Of every text one part is looked at. An identifier is read exactly if that part names one, and
its text is then the digits of the name, in lower case and without hyphens, whatever name it may be.
Every other text is refused as an identifier, with a detail that quotes the part if it mentions the
service, and else the text. -/
theorem parse_recognizes (text : String) : ∃ kept,
    (∀ other, IsCleaned text.toList other ↔ other = kept) ∧
    ((∃ id, parse text = .ok id) ↔ ∃ name, Names name kept) ∧
    (∀ id name, parse text = .ok id → Names name kept →
      id.text = String.ofList (digitsOf name)) ∧
    ((¬∃ name, Names name kept) → ∃ error detail, parse text = .error error ∧
      error.refusal = .id detail ∧
      (("notion".toList <:+: kept ∧
          detail = "No valid ID found in URL: " ++ String.ofList kept) ∨
        (¬"notion".toList <:+: kept ∧ detail = "Could not parse Notion ID from: " ++ text))) := by
  refine ⟨cleaned text.toList, fun other => ?_, ⟨fun hread => ?_, fun hnames => ?_⟩,
    fun id name hread hname => ?_, fun hnone => ?_⟩
  · rw [← cleaned_eq_iff, eq_comm]
  · by_contra hnone
    obtain ⟨id, hread⟩ := hread
    cases hread.symm.trans (parse_of_not_names hnone)
  · obtain ⟨name, hname⟩ := hnames
    obtain ⟨id, hread, -⟩ := parse_of_names hname
    exact ⟨id, hread⟩
  · obtain ⟨other, hother, hdigits⟩ := parse_of_names hname
    obtain rfl := Except.ok.inj (hread.symm.trans hother)
    rw [Identifier.text, hdigits]
  · have hread := parse_of_not_names hnone
    by_cases hmentions : "notion".toList <:+: cleaned text.toList
    · rw [if_pos (mentions_iff.2 hmentions)] at hread
      exact ⟨_, _, hread, rfl, Or.inl ⟨hmentions, rfl⟩⟩
    · rw [if_neg (mt mentions_iff.1 hmentions)] at hread
      exact ⟨_, _, hread, rfl, Or.inr ⟨hmentions, rfl⟩⟩

/-- A URN is read although its mark is in capitals, and although the text has none of the other
forms. -/
theorem parse_capital_urn :
    let text := "URN:UUID:01234567-89ab-cdef-0123-456789abcdef"
    IsCleaned text.toList text.toList ∧ parse text = .ok sample ∧
      ¬(IsBare text.toList ∨ IsHyphenated text.toList ∨
        (∃ name, IsHyphenated name ∧
          ('\x7b' :: name ++ ['\x7d'] = text.toList ∨ "urn:uuid:".toList ++ name = text.toList)) ∨
        ("notion".toList <:+: text.toList ∧ ∃ name, IsFirst name text.toList)) := by
  intro text
  refine ⟨cleaned_eq_iff.1 (by decide +kernel), by decide +kernel, ?_⟩
  have hhead : text.toList.head? = some 'U' := by decide +kernel
  rintro (hbare | hhyphenated | ⟨name, -, hbraced | hurn⟩ | ⟨hmentions, -⟩)
  · exact absurd hbare.1 (by decide +kernel)
  · obtain ⟨first, more, hlength, hfirst, htext⟩ := hhyphenated.exists_first
    rw [← htext, List.head?_append_of_ne_nil _ (by rintro rfl; cases hlength)] at hhead
    exact absurd (hfirst 'U' (List.mem_of_head? hhead)) (by decide)
  · rw [← hbraced] at hhead
    cases hhead
  · rw [← hurn] at hhead
    cases hhead
  · exact absurd (mentions_iff.2 hmentions) (by decide +kernel)

end Identifier

end NotionProject
