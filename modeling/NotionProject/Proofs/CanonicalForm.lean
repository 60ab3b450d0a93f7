import NotionProject.Decode.Plain
import NotionProject.Proofs.Octets
import NotionProject.Proofs.Tokens

/-!
# The one form of an identifier

However an identifier is spelled (`Identifier.Spells`), it is read as the same one. The search for
groups of digits does not depend on the case of letters (`Text.takeGroups_lower`), so it is
enough to look at the form in which identifiers are written; of the four forms that are tried one
after the other at most one fits (`Identifier.standalone?_of_spells`); and white space around a
spelling, and slashes behind it, are taken away (`Identifier.cleaned_of_spells`).

With that an identifier is its text, its hyphenated text, and its JSON, each of which gives it back
(`Identifier.isCanonical`).
-/

namespace NotionProject

/-! ## Case -/

/-- What is a digit does not depend on the case. -/
theorem isHexDigit_toLower (c : Char) : isHexDigit c.toLower = isHexDigit c :=
  char_toLower (p := fun c lower => isHexDigit lower = isHexDigit c) (fun _ _ => rfl) (by decide) c

theorem toLower_eq_hyphen_iff {c : Char} : c.toLower = '-' ↔ c = '-' :=
  char_toLower (p := fun c lower => lower = '-' ↔ c = '-') (fun _ _ => Iff.rfl) (by decide) c

namespace Text

/-- A text in lower case. -/
def lower (text : List Char) : List Char :=
  text.map Char.toLower

/-- A text of characters that are lowercase is its own lowercase form. -/
theorem lower_eq_self {text : List Char} (h : ∀ c ∈ text, c.toLower = c) : lower text = text :=
  (List.map_congr_left h).trans (List.map_id text)

/-! ## Groups of digits -/

/-- As many digits as are asked for are taken, whatever follows. -/
theorem takeHex_append {digits : List Char} (h : ∀ c ∈ digits, isHexDigit c = true)
    (rest : List Char) : takeHex digits.length (digits ++ rest) = some (digits, rest) := by
  induction digits with
  | nil => rfl
  | cons c digits ih =>
    obtain ⟨hc, hdigits⟩ := List.forall_mem_cons.1 h
    simp [takeHex, hc, ih hdigits]

/-- There are no more digits than stand before the first other character. -/
theorem takeHex_eq_none {n : Nat} {digits : List Char} {c : Char} (hn : digits.length < n)
    (hc : isHexDigit c = false) (rest : List Char) : takeHex n (digits ++ c :: rest) = none := by
  induction digits generalizing n with
  | nil =>
    cases n with
    | zero => simp at hn
    | succ n => simp [takeHex, hc]
  | cons d digits ih =>
    cases n with
    | zero => simp at hn
    | succ n => simp [takeHex, ih (Nat.lt_of_succ_lt_succ hn)]

/-- The digits and the text after them, in lower case. -/
def lowerFound (found : List Char × List Char) : List Char × List Char :=
  (lower found.1, lower found.2)

/-- Digits are taken in either case. -/
theorem takeHex_lower (n : Nat) (text : List Char) :
    takeHex n (lower text) = (takeHex n text).map lowerFound := by
  induction n generalizing text with
  | zero => rfl
  | succ n ih =>
    cases text with
    | nil => rfl
    | cons c text =>
      have ih := ih text
      unfold lower at ih ⊢
      rw [List.map_cons, takeHex, takeHex, isHexDigit_toLower, ih]
      split
      · cases takeHex n text <;> rfl
      · rfl

/-- Between two groups a hyphen has to stand. -/
theorem takeGroups_cons_cons (n m : Nat) (more : List Nat) (text : List Char) :
    takeGroups (n :: m :: more) text =
      match takeHex n text with
      | some (digits, '-' :: rest) =>
        (takeGroups (m :: more) rest).map fun found => (digits ++ found.1, found.2)
      | _ => none := rfl

/-- Where the groups are does not depend on the case. -/
theorem takeGroups_lower (lengths : List Nat) (text : List Char) :
    takeGroups lengths (lower text) = (takeGroups lengths text).map lowerFound := by
  induction lengths generalizing text with
  | nil => rfl
  | cons n more ih =>
    cases more with
    | nil => exact takeHex_lower n text
    | cons m more =>
      rw [takeGroups_cons_cons, takeGroups_cons_cons, takeHex_lower]
      rcases takeHex n text with - | ⟨digits, - | ⟨c, rest⟩⟩
      · rfl
      · rfl
      · by_cases hc : c = '-'
        · subst hc
          have hrest := ih rest
          simp only [lower] at hrest
          simp [lowerFound, lower, hrest, Function.comp_def]
        · have hlower : c.toLower ≠ '-' := fun h => hc (toLower_eq_hyphen_iff.1 h)
          simp [lowerFound, lower, hc, hlower]

/-- Groups with hyphens between are found again, whatever comes after them. -/
theorem takeGroups_intercalate :
    ∀ {groups : List (List Char)}, (∀ group ∈ groups, ∀ c ∈ group, isHexDigit c = true) →
      ∀ rest : List Char, takeGroups (groups.map List.length) (['-'].intercalate groups ++ rest) =
        some (groups.flatten, rest)
  | [], _, _ => rfl
  | [group], h, rest => by
    have hgroup := takeHex_append (h group List.mem_cons_self) rest
    simpa [takeGroups] using hgroup
  | group :: next :: groups, h, rest => by
    obtain ⟨hgroup, hgroups⟩ := List.forall_mem_cons.1 h
    have ih := takeGroups_intercalate hgroups rest
    have hfirst := takeHex_append hgroup ('-' :: (['-'].intercalate (next :: groups) ++ rest))
    rw [List.intercalate_cons_cons, List.append_assoc, List.append_assoc, List.singleton_append]
    simp only [List.map_cons, takeGroups_cons_cons, hfirst] at ih ⊢
    simp [ih]

/-- What is found in a text is found in any case that the text may be in. -/
theorem exists_takeAll_of_lower {take : List Char → Option (List Char × List Char)}
    (htake : ∀ text, take (lower text) = (take text).map lowerFound) {text digits : List Char}
    (h : take (lower text) = some (digits, [])) :
    ∃ found, takeAll take text = some found ∧ lower found = digits := by
  rw [htake, Option.map_eq_some_iff] at h
  obtain ⟨⟨found, rest⟩, hfound, h⟩ := h
  obtain ⟨hdigits, hrest⟩ := Prod.mk.inj h
  have hnil : rest = [] := List.map_eq_nil_iff.1 hrest
  exact ⟨found, by rw [takeAll, hfound, hnil], hdigits⟩

/-- What cannot be taken at all cannot be taken as a whole. -/
theorem takeAll_eq_none {take : List Char → Option (List Char × List Char)} {text : List Char}
    (h : take text = none) : takeAll take text = none := by
  rw [takeAll, h]

/-! ## White space around a text -/

theorem dropEndWhile_append_of_forall {drop : Char → Bool} {after : List Char}
    (h : ∀ c ∈ after, drop c = true) (text : List Char) :
    dropEndWhile drop (text ++ after) = dropEndWhile drop text := by
  have hreverse : ∀ c ∈ after.reverse, drop c = true := fun c hc => h c (List.mem_reverse.1 hc)
  rw [dropEndWhile, dropEndWhile, List.reverse_append, List.dropWhile_append_of_pos hreverse]

/-- Blanks around a text are cut off, if there are none in it. -/
theorem trim_append {before text after : List Char} (hbefore : ∀ c ∈ before, isBlank c = true)
    (hafter : ∀ c ∈ after, isBlank c = true) (hne : text ≠ [])
    (htext : ∀ c ∈ text, isBlank c = false) : trim (before ++ text ++ after) = text := by
  obtain ⟨c, rest, rfl⟩ := List.exists_cons_of_ne_nil hne
  have hstart : (before ++ (c :: rest) ++ after).dropWhile isBlank = (c :: rest) ++ after := by
    rw [List.append_assoc, List.dropWhile_append_of_pos hbefore, List.cons_append,
      List.dropWhile_cons_of_neg (by simp [htext c List.mem_cons_self])]
  rw [trim, hstart, dropEndWhile_append_of_forall hafter, dropEndWhile_eq_self htext]

end Text

/-! ## Spellings -/

theorem isHexDigit_of_isLowerHexDigit {c : Char} (h : isLowerHexDigit c = true) :
    isHexDigit c = true := by
  rw [isHexDigit, Bool.or_eq_true]
  exact Or.inl h

namespace Identifier

open Text

variable {id : Identifier} {text : List Char}

/-- The digits in the groups that hyphens divide. -/
def groups (id : Identifier) : List (List Char) :=
  [id.digits.take 8, (id.digits.drop 8).take 4, (id.digits.drop 12).take 4,
    (id.digits.drop 16).take 4, id.digits.drop 20]

/-- The hyphenated form has the groups of digits with hyphens between them. -/
theorem toList_hyphenated (id : Identifier) :
    id.hyphenated.toList = ['-'].intercalate id.groups := by
  simp [hyphenated, groups, List.intercalate]

/-- The groups have eight, four, four, four and twelve digits. -/
theorem length_groups (id : Identifier) : id.groups.map List.length = groupLengths := by
  simp [groups, groupLengths, id.length_digits]

/-- Put together, the groups are the digits. -/
theorem flatten_groups (id : Identifier) : id.groups.flatten = id.digits := by
  have hstep : ∀ first count, (id.digits.drop first).take count ++ id.digits.drop (first + count) =
      id.digits.drop first := fun first count => by
    rw [← List.drop_drop, List.take_append_drop]
  simp only [groups, List.flatten_cons, List.flatten_nil, List.append_nil]
  rw [hstep 16 4, hstep 12 4, hstep 8 4, List.take_append_drop]

theorem isHexDigit_of_mem_digits {c : Char} (h : c ∈ id.digits) : isHexDigit c = true :=
  isHexDigit_of_isLowerHexDigit (id.isHex_digits c h)

theorem mem_digits_of_mem_groups {group : List Char} (hgroup : group ∈ id.groups) {c : Char}
    (hc : c ∈ group) : c ∈ id.digits := by
  rw [← flatten_groups]
  exact List.mem_flatten_of_mem hgroup hc

theorem isHexDigit_of_mem_groups : ∀ group ∈ id.groups, ∀ c ∈ group, isHexDigit c = true :=
  fun _ hgroup _ hc => isHexDigit_of_mem_digits (mem_digits_of_mem_groups hgroup hc)

/-- The ways to spell an identifier: its digits, or its groups with hyphens between them, in letters
of either case, and such groups in braces or as a URN. -/
inductive Spells (id : Identifier) : List Char → Prop where
  | bare {text : List Char} (h : lower text = id.digits) : Spells id text
  | hyphenated {text : List Char} (h : lower text = id.hyphenated.toList) : Spells id text
  | braced {text : List Char} (h : lower text = id.hyphenated.toList) :
      Spells id ('\x7b' :: text ++ ['\x7d'])
  | urn {text : List Char} (h : lower text = id.hyphenated.toList) :
      Spells id ("urn:uuid:".toList ++ text)

/-- Digits in either case are found where a bare form is looked for. -/
theorem exists_takeBare (h : lower text = id.digits) :
    ∃ found, takeAll takeBare text = some found ∧ lower found = id.digits := by
  refine exists_takeAll_of_lower (takeHex_lower 32) ?_
  have hdigits : ∀ c ∈ id.digits, isHexDigit c = true := fun _ hc => isHexDigit_of_mem_digits hc
  have hfound := takeHex_append hdigits []
  rw [id.length_digits, List.append_nil] at hfound
  rw [h]
  exact hfound

/-- A hyphenated form in either case is found where one is looked for. -/
theorem exists_takeHyphenated (h : lower text = id.hyphenated.toList) :
    ∃ found, takeAll takeHyphenated text = some found ∧ lower found = id.digits := by
  refine exists_takeAll_of_lower (takeGroups_lower groupLengths) ?_
  have hfound := takeGroups_intercalate (@isHexDigit_of_mem_groups id) []
  rwa [length_groups, flatten_groups, List.append_nil, ← toList_hyphenated, ← h] at hfound

/-- The digits that are found first are those of the spelling. -/
theorem standalone?_of_spells (h : id.Spells text) :
    ∃ found, standalone? text = some found ∧ lower found = id.digits := by
  cases h with
  | bare h =>
    obtain ⟨found, hfound, hdigits⟩ := exists_takeBare h
    exact ⟨found, by simp [standalone?, hfound], hdigits⟩
  | hyphenated h =>
    obtain ⟨found, hfound, hdigits⟩ := exists_takeHyphenated h
    -- The first hyphen stands before thirty-two digits are found.
    have hbare : takeBare text = none := by
      have hnone : takeHex 32 (lower text) = none := by
        rw [h, toList_hyphenated, groups, List.intercalate_cons_cons, List.append_assoc,
          List.singleton_append]
        refine takeHex_eq_none ?_ rfl _
        simp [id.length_digits]
      rw [takeHex_lower, Option.map_eq_none_iff] at hnone
      exact hnone
    exact ⟨found, by simp [standalone?, takeAll_eq_none hbare, hfound], hdigits⟩
  | @braced text h =>
    obtain ⟨found, hfound, hdigits⟩ := exists_takeHyphenated h
    have hbare : takeBare ('\x7b' :: text ++ ['\x7d']) = none := rfl
    have hhyphenated : takeHyphenated ('\x7b' :: text ++ ['\x7d']) = none := rfl
    have hbraced : unbraced? ('\x7b' :: text ++ ['\x7d']) = some text := by
      simp [unbraced?]
    exact ⟨found, by simp only [standalone?, takeAll_eq_none hbare, takeAll_eq_none hhyphenated,
      hbraced, Option.bind_some, hfound, Option.none_or, Option.some_or], hdigits⟩
  | @urn text h =>
    obtain ⟨found, hfound, hdigits⟩ := exists_takeHyphenated h
    have hbare : takeBare ("urn:uuid:".toList ++ text) = none := rfl
    have hhyphenated : takeHyphenated ("urn:uuid:".toList ++ text) = none := rfl
    have hbraced : unbraced? ("urn:uuid:".toList ++ text) = none := rfl
    have hurn : afterUrn? ("urn:uuid:".toList ++ text) = some text := rfl
    exact ⟨found, by simp only [standalone?, takeAll_eq_none hbare, takeAll_eq_none hhyphenated,
      hbraced, hurn, Option.bind_some, Option.bind_none, hfound, Option.none_or], hdigits⟩

/-- The digits tell the identifier, in either case. -/
theorem ofDigits?_of_lower {digits : List Char} (h : lower digits = id.digits) :
    ofDigits? digits = some id := by
  have hlength : digits.length = 32 := by
    rw [← id.length_digits, ← h, lower, List.length_map]
  have hall : digits.all isHexDigit = true := by
    refine List.all_eq_true.2 fun c hc => ?_
    have hlower : c.toLower ∈ id.digits := h ▸ List.mem_map_of_mem hc
    rw [← isHexDigit_toLower]
    exact isHexDigit_of_mem_digits hlower
  rw [ofDigits?, dif_pos ⟨hlength, hall⟩]
  cases id
  cases h
  rfl

/-- Whether a character is neither white space nor a slash. -/
def isSolid (c : Char) : Bool :=
  !isBlank c && c != '/'

theorem isSolid_of_isHexDigit {c : Char} (h : isHexDigit c = true) : isSolid c = true :=
  of_isHexDigit (p := fun c => isSolid c = true) (by decide) h

/-- No character of a bare form is cut off from a text around it. -/
theorem isSolid_of_lower_digits (h : lower text = id.digits) : ∀ c ∈ text, isSolid c = true := by
  intro c hc
  have hlower : c.toLower ∈ id.digits := h ▸ List.mem_map_of_mem hc
  refine isSolid_of_isHexDigit ?_
  rw [← isHexDigit_toLower]
  exact isHexDigit_of_mem_digits hlower

/-- Nor is one of a hyphenated form. -/
theorem isSolid_of_lower_hyphenated (h : lower text = id.hyphenated.toList) :
    ∀ c ∈ text, isSolid c = true := by
  intro c hc
  have hlower : c.toLower ∈ ['-'].intercalate id.groups :=
    toList_hyphenated id ▸ h ▸ List.mem_map_of_mem hc
  have hmem : isHexDigit c.toLower = true ∨ c.toLower = '-' :=
    forall_mem_intercalate (p := fun d => isHexDigit d = true ∨ d = '-') (Or.inr rfl)
      (fun group hgroup d hd => Or.inl (isHexDigit_of_mem_groups group hgroup d hd)) _ hlower
  rw [isHexDigit_toLower, toLower_eq_hyphen_iff] at hmem
  rcases hmem with hdigit | rfl
  · exact isSolid_of_isHexDigit hdigit
  · decide

/-- No character of a spelling is white space or a slash. -/
theorem isSolid_of_spells (h : id.Spells text) : ∀ c ∈ text, isSolid c = true := by
  cases h with
  | bare h => exact isSolid_of_lower_digits h
  | hyphenated h => exact isSolid_of_lower_hyphenated h
  | braced h =>
    exact List.forall_mem_cons.2 ⟨by decide,
      List.forall_mem_append.2 ⟨isSolid_of_lower_hyphenated h, by decide⟩⟩
  | urn h => exact List.forall_mem_append.2 ⟨by decide, isSolid_of_lower_hyphenated h⟩

theorem spells_ne_nil (h : id.Spells text) : text ≠ [] := by
  rintro rfl
  obtain ⟨found, hfound, -⟩ := standalone?_of_spells h
  cases hfound

/-- Blanks around a spelling and slashes behind it are cut off, and nothing else. -/
theorem cleaned_of_spells (h : id.Spells text) {before after : List Char}
    (hbefore : ∀ c ∈ before, isBlank c = true) (hafter : ∀ c ∈ after, isBlank c = true)
    (slashes : Nat) :
    cleaned (before ++ (text ++ List.replicate slashes '/') ++ after) = text := by
  have hsolid : ∀ c ∈ text, isBlank c = false ∧ (c == '/') = false := fun c hc => by
    simpa [isSolid] using isSolid_of_spells h c hc
  have hblank : ∀ c ∈ text ++ List.replicate slashes '/', isBlank c = false := by
    refine List.forall_mem_append.2 ⟨fun c hc => (hsolid c hc).1, fun c hc => ?_⟩
    rw [List.eq_of_mem_replicate hc]
    decide
  have hslash : ∀ c ∈ List.replicate slashes '/', (c == '/') = true := fun c hc =>
    beq_iff_eq.2 (List.eq_of_mem_replicate hc)
  rw [cleaned, trim_append hbefore hafter (by simp [spells_ne_nil h]) hblank,
    dropEndWhile_append_of_forall hslash, dropEndWhile_eq_self fun c hc => (hsolid c hc).2]

/-- However an identifier is spelled, with white space around and slashes behind, it is read. -/
theorem parse_of_spells (h : id.Spells text) {before after : List Char}
    (hbefore : ∀ c ∈ before, isBlank c = true) (hafter : ∀ c ∈ after, isBlank c = true)
    (slashes : Nat) :
    parse (String.ofList (before ++ (text ++ List.replicate slashes '/') ++ after)) = .ok id := by
  obtain ⟨found, hfound, hdigits⟩ := standalone?_of_spells h
  unfold parse
  simp only [String.toList_ofList, cleaned_of_spells h hbefore hafter slashes, hfound,
    Option.bind_some, ofDigits?_of_lower hdigits]

/-! ## The one form -/

theorem toLower_of_mem_digits {c : Char} (h : c ∈ id.digits) : c.toLower = c :=
  of_isHexDigit (p := fun c => isLowerHexDigit c = true → c.toLower = c) (by decide)
    (isHexDigit_of_mem_digits h) (id.isHex_digits c h)

theorem toLower_of_mem_groups : ∀ group ∈ id.groups, ∀ c ∈ group, c.toLower = c :=
  fun _ hgroup _ hc => toLower_of_mem_digits (mem_digits_of_mem_groups hgroup hc)

theorem lower_digits (id : Identifier) : lower id.digits = id.digits :=
  lower_eq_self fun _ hc => toLower_of_mem_digits hc

/-- The bare form is read as the identifier. -/
theorem parse_text (id : Identifier) : parse id.text = .ok id := by
  have hparse := parse_of_spells (.bare (lower_digits id)) (List.forall_mem_nil _)
    (List.forall_mem_nil _) 0
  simpa [Identifier.text] using hparse

/-- The hyphenated form is read as the identifier. -/
theorem parse_hyphenated (id : Identifier) : parse id.hyphenated = .ok id := by
  have hlower : lower id.hyphenated.toList = id.hyphenated.toList := by
    refine lower_eq_self fun c hc => ?_
    rw [toList_hyphenated] at hc
    exact forall_mem_intercalate (p := fun c => c.toLower = c) rfl toLower_of_mem_groups c hc
  have hparse := parse_of_spells (.hyphenated hlower) (List.forall_mem_nil _)
    (List.forall_mem_nil _) 0
  simpa using hparse

/-- Different identifiers have different hyphenated forms. -/
theorem hyphenated_inj {other : Identifier} : id.hyphenated = other.hyphenated ↔ id = other := by
  refine ⟨fun h => ?_, fun h => h ▸ rfl⟩
  have hparse := parse_hyphenated id
  rw [h, parse_hyphenated] at hparse
  exact (Except.ok.inj hparse).symm

/-- As a JSON value an identifier is read back. -/
theorem decode_toJson (id : Identifier) : Decoder.ofJson decode id.toJson = .ok id := by
  have htext : Decoder.string (.ofJson id.toJson) = .ok id.text := rfl
  simp [Decoder.ofJson, decode, htext, parse_text, bind, Except.bind, pure, Except.pure]

/-- And so it is from the text of the value. -/
theorem decode_compact (id : Identifier) : Decoder.ofText decode id.toJson.compact = .ok id := by
  have hsource : Source.ofText id.toJson.compact = (.ofJson id.toJson, false) :=
    Source.ofText_string id.text
  have hdecode : decode (.ofJson id.toJson) = .ok id := decode_toJson id
  rw [Decoder.ofText, hsource]
  simp [hdecode, bind, Except.bind, pure, Except.pure]

theorem mem_of_mem_digits {c : Char} (h : c ∈ id.digits) : c ∈ "0123456789abcdef".toList :=
  of_isHexDigit (p := fun c => isLowerHexDigit c = true → c ∈ "0123456789abcdef".toList) (by decide)
    (isHexDigit_of_mem_digits h) (id.isHex_digits c h)

/-- An identifier is thirty-two lower case digits, and five groups of them are its hyphenated form,
which no other identifier has. From any of its spellings, with white space around and slashes
behind, and from its JSON, it is read back. -/
theorem isCanonical (id : Identifier) :
    (id.text.length = 32 ∧ id.text.utf8ByteSize = 32 ∧
      ∀ c ∈ id.text.toList, c ∈ "0123456789abcdef".toList) ∧
    (∃ groups : List String, groups.map String.length = [8, 4, 4, 4, 12] ∧
      String.join groups = id.text ∧ "-".intercalate groups = id.hyphenated) ∧
    (parse id.text = .ok id ∧ parse id.hyphenated = .ok id ∧
      ∀ spelling before after : List Char, id.Spells spelling →
        (∀ c ∈ before, isBlank c = true) → (∀ c ∈ after, isBlank c = true) → ∀ slashes : Nat,
          parse (String.ofList (before ++ (spelling ++ List.replicate slashes '/') ++ after)) =
            .ok id) ∧
    (Decoder.ofJson decode id.toJson = .ok id ∧
      Decoder.ofText decode id.toJson.compact = .ok id) ∧
    ∀ other : Identifier, id.hyphenated = other.hyphenated ↔ id = other := by
  refine ⟨⟨?_, ?_, ?_⟩, ⟨id.groups.map String.ofList, ?_, ?_, ?_⟩,
    ⟨parse_text id, parse_hyphenated id, fun spelling before after h hbefore hafter slashes =>
      parse_of_spells h hbefore hafter slashes⟩, ⟨decode_toJson id, decode_compact id⟩,
    fun other => hyphenated_inj⟩
  · simp [Identifier.text, id.length_digits]
  · have hascii : ∀ c ∈ id.digits, c.toNat < 128 := fun c hc =>
      of_isHexDigit (p := fun c => c.toNat < 128) (by decide) (isHexDigit_of_mem_digits hc)
    rw [Identifier.text, utf8ByteSize_ofList_of_ascii hascii, id.length_digits]
  · intro c hc
    rw [Identifier.text, String.toList_ofList] at hc
    exact mem_of_mem_digits hc
  · simpa [Function.comp_def, groupLengths] using length_groups id
  · rw [← String.toList_inj, String.toList_join, Identifier.text, String.toList_ofList,
      ← flatten_groups]
    simp [List.flatMap_map]
  · rw [← String.toList_inj, String.toList_intercalate, toList_hyphenated]
    simp [Function.comp_def]

/-- An identifier with every digit. -/
def sample : Identifier :=
  ofHex "0123456789abcdef0123456789abcdef".toList (by decide)

/-- A spelling in braces, in letters of both cases, with white space around and slashes behind. -/
theorem isCanonical_braced :
    parse "\t {01234567-89AB-cdef-0123-456789aBcDeF}//\n" = .ok sample := by
  have hlower : lower "01234567-89AB-cdef-0123-456789aBcDeF".toList = sample.hyphenated.toList := by
    decide +kernel
  have hparse := (isCanonical sample).2.2.1.2.2 _ ['\t', ' '] ['\n'] (.braced hlower) (by decide)
    (by decide) 2
  exact hparse

end Identifier

end NotionProject
