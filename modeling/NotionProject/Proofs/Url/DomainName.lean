import NotionProject.Url.Domain
import Mathlib.Data.List.Forall2

/-!
# Names of hosts read back

The name of a host has no letters in upper case, whatever text it comes from
(`toLower_of_mem_toAscii?`): no image of a character has any, by the tables, composition makes
none, and Punycode has none. In such a name in ASCII every character stands for itself, and
every label is written as it is read, so that the name, if it is read again, is the same
(`eq_of_toAscii?_eq_some`).
-/

namespace NotionProject

/-- A list has values throughout exactly if each item has one. -/
theorem mapM_eq_some_iff {α β : Type} {f : α → Option β} {items : List α} {values : List β} :
    items.mapM f = some values ↔
      List.Forall₂ (fun item value => f item = some value) items values := by
  induction items generalizing values with
  | nil => simp [eq_comm]
  | cons item rest ih =>
    simp only [List.mapM_cons, Option.bind_eq_bind, Option.bind_eq_some_iff,
      List.forall₂_cons_left_iff, ← ih]
    simp [eq_comm]

/-- Every value is that of an item. -/
theorem exists_of_mapM_eq_some {α β : Type} {f : α → Option β} {items : List α}
    {values : List β} (h : items.mapM f = some values) :
    ∀ value ∈ values, ∃ item ∈ items, f item = some value := by
  rw [mapM_eq_some_iff] at h
  induction h with
  | nil => simp
  | cons hf _ ih =>
    intro value hv
    rcases List.mem_cons.1 hv with rfl | hv
    · exact ⟨_, List.mem_cons_self, hf⟩
    · obtain ⟨item, hi, hf⟩ := ih value hv
      exact ⟨item, List.mem_cons_of_mem _ hi, hf⟩

namespace Domain

/-! ## Characters in lower case -/

theorem toLower_ofNat_eq_self {n : Nat} (h : n < 0x41 ∨ 0x5A < n) :
    (Char.ofNat n).toLower = Char.ofNat n := by
  apply toLower_eq_self_of_toNat
  unfold Char.ofNat
  by_cases hvalid : n.isValidChar
  · rw [dif_pos hvalid]
    exact h
  · rw [dif_neg hvalid]
    exact Or.inl (by decide)

theorem toLower_toLower (c : Char) : c.toLower.toLower = c.toLower :=
  char_toLower (p := fun _ lower => lower.toLower = lower) (fun _ h => h) (by decide) c

/-- The text has no letter in upper case. -/
def IsLower (text : List Char) : Prop :=
  ∀ c ∈ text, c.toLower = c

@[simp] theorem isLower_nil : IsLower [] :=
  List.forall_mem_nil _

@[simp] theorem isLower_cons {c : Char} {text : List Char} :
    IsLower (c :: text) ↔ c.toLower = c ∧ IsLower text :=
  List.forall_mem_cons

@[simp] theorem isLower_append {text rest : List Char} :
    IsLower (text ++ rest) ↔ IsLower text ∧ IsLower rest :=
  List.forall_mem_append

theorem IsLower.flatMap {α : Type} {items : List α} {f : α → List Char}
    (h : ∀ item ∈ items, IsLower (f item)) : IsLower (items.flatMap f) := by
  intro c hc
  obtain ⟨item, hi, hc⟩ := List.mem_flatMap.1 hc
  exact h item hi c hc

theorem IsLower.mono {text part : List Char} (h : IsLower text) (hs : part ⊆ text) :
    IsLower part :=
  fun c hc => h c (hs hc)

/-! ## The tables -/

/-- A text that is given is checked character by character. -/
theorem isLower_of_eq {text : String} {chars : List Char} (h : text = String.ofList chars)
    (hl : (chars.all fun c => c.toLower == c) = true) : IsLower text.toList := by
  subst h
  rw [String.toList_ofList]
  exact fun c hc => by simpa using List.all_eq_true.1 hl c hc

-- The texts are taken as lists of characters one by one: reading them takes far longer.
set_option maxRecDepth 8000 in
theorem isLower_shortImages : ∀ row ∈ shortImages, IsLower row.2.toList := by
  unfold shortImages
  repeat
    first
    | exact List.forall_mem_nil _
    | refine List.forall_mem_cons.2 ⟨isLower_of_eq rfl (by decide +kernel), ?_⟩

set_option maxRecDepth 8000 in
theorem isLower_longImages : ∀ row ∈ longImages, IsLower row.2.toList := by
  unfold longImages
  repeat
    first
    | exact List.forall_mem_nil _
    | refine List.forall_mem_cons.2 ⟨isLower_of_eq rfl (by decide +kernel), ?_⟩

/-- No image in the tables has a capital letter of ASCII. -/
theorem isLower_imageRows : ∀ row ∈ imageRows, ∀ image ∈ row.2, IsLower image := by
  intro row hrow image hi
  rcases List.mem_append.1 hrow with h | h
  · obtain ⟨row, hr, rfl⟩ := List.mem_map.1 h
    obtain ⟨c, hc, rfl⟩ := List.mem_map.1 hi
    simpa using isLower_shortImages row hr c hc
  · obtain ⟨row, hr, rfl⟩ := List.mem_map.1 h
    exact fun c hc => isLower_longImages row hr c (Text.mem_of_mem_splitAt hi hc)

/-- Nor do the runs of images reach one. -/
theorem imageRuns_bounds : ∀ run ∈ imageRuns,
    run.image + (run.last - run.first) < 0x41 ∨ 0x5A < run.image := by
  decide +kernel

/-- In the tables of what is joined stands none either, neither as a whole nor as a part. -/
theorem compositions_bounds : ∀ row ∈ compositions, 0x5A < row.1 ∧
    ∀ pair ∈ row.2, (pair.1 < 0x41 ∨ 0x5A < pair.1) ∧ 0x5A < pair.2 := by
  decide +kernel

/-! ## Images -/

/-- No character stands for one in upper case. -/
theorem isLower_of_image? {c : Char} {image : List Char} (h : image? c = some image) :
    IsLower image := by
  unfold image? at h
  split at h
  · cases h
    exact List.forall_mem_singleton.2 (toLower_toLower c)
  next hascii =>
  rcases Option.or_eq_some_iff.1 h with h | ⟨-, h⟩
  · unfold changed? at h
    split at h
    · cases h
      exact isLower_nil
    · split at h
      · next image hrun =>
        cases h
        obtain ⟨run, hr, hi⟩ := List.exists_of_findSome?_eq_some hrun
        have hb := imageRuns_bounds run hr
        unfold CodeRun.image? at hi
        split at hi
        · cases hi
          simpa using toLower_ofNat_eq_self (by omega)
        · cases hi
      · obtain ⟨row, hr, hi⟩ := List.exists_of_findSome?_eq_some h
        dsimp only at hi
        split at hi
        · exact isLower_imageRows row hr image (List.mem_of_getElem? hi)
        · cases hi
  · split at h
    · cases h
      simp only [isAscii, decide_eq_true_eq] at hascii
      simpa using toLower_eq_self_of_toNat (by omega)
    · cases h

/-- Nor does a text. -/
theorem isLower_of_images? {text images : List Char} (h : images? text = some images) :
    IsLower images := by
  obtain ⟨parts, hp, rfl⟩ := Option.map_eq_some_iff.1 h
  intro c hc
  obtain ⟨part, hm, hc⟩ := List.mem_flatten.1 hc
  obtain ⟨d, -, hd⟩ := exists_of_mapM_eq_some hp part hm
  exact isLower_of_image? hd c hc

/-! ## Composition -/

/-- Joining makes no capital letter of ASCII. -/
theorem toLower_of_joined? {a b c : Char} (h : joined? a b = some c) : c.toLower = c := by
  unfold joined? at h
  split at h
  · cases h
  obtain ⟨n, hn, rfl⟩ := Option.map_eq_some_iff.1 h
  refine toLower_ofNat_eq_self (Or.inr ?_)
  rcases Option.or_eq_some_iff.1 hn with hs | ⟨-, hs⟩
  · unfold syllable? at hs
    split at hs
    · have := Option.some.inj hs
      omega
    · split at hs
      · have := Option.some.inj hs
        omega
      · cases hs
  · obtain ⟨firsts, hf, hl⟩ := Option.bind_eq_some_iff.1 hs
    obtain ⟨l₁, l₂, hrow, -⟩ := List.lookup_eq_some_iff.1 hf
    obtain ⟨m₁, m₂, rfl, -⟩ := List.lookup_eq_some_iff.1 hl
    have hb := compositions_bounds (b.toNat, m₁ ++ (a.toNat, n) :: m₂) (by rw [hrow]; simp)
    exact (hb.2 (a.toNat, n) (by simp)).2

/-- Neither does taking apart. -/
theorem isLower_of_parts? {a b c : Char} (h : parts? c = some (a, b)) :
    a.toLower = a ∧ b.toLower = b := by
  unfold parts? at h
  split at h
  · cases h
  obtain ⟨⟨first, second⟩, hn, heq⟩ := Option.map_eq_some_iff.1 h
  cases heq
  suffices hs : (first < 0x41 ∨ 0x5A < first) ∧ 0x5A < second from
    ⟨toLower_ofNat_eq_self hs.1, toLower_ofNat_eq_self (Or.inr hs.2)⟩
  rcases Option.or_eq_some_iff.1 hn with hs | ⟨-, hs⟩
  · unfold syllableParts? at hs
    split at hs
    · dsimp only at hs
      split at hs
      · simp only [Option.some.injEq, Prod.mk.injEq] at hs
        omega
      · simp only [Option.some.injEq, Prod.mk.injEq] at hs
        omega
    · cases hs
  · obtain ⟨row, hr, hs⟩ := List.exists_of_findSome?_eq_some hs
    obtain ⟨pair, hp, heq⟩ := Option.map_eq_some_iff.1 hs
    cases heq
    have hb := compositions_bounds row hr
    exact ⟨(hb.2 pair (List.mem_of_find?_eq_some hp)).1, hb.1⟩

/-- A lowercase text stays so when it is taken apart. -/
theorem isLower_takeApart {text : List Char} (h : IsLower text) : IsLower (takeApart text) := by
  refine IsLower.flatMap fun c hc => ?_
  cases hp : parts? c with
  | none => simpa using h c hc
  | some pair => simpa using isLower_of_parts? hp

theorem mem_of_mem_putMark {c d : Char} {text : List Char} (h : d ∈ putMark c text) :
    d ∈ c :: text := by
  unfold putMark at h
  rcases List.mem_append.1 h with h | h
  · exact List.mem_cons_of_mem _ ((List.takeWhile_sublist _).subset h)
  · rcases List.mem_cons.1 h with rfl | h
    · exact List.mem_cons_self
    · exact List.mem_cons_of_mem _ ((List.dropWhile_sublist _).subset h)

/-- Marks are put in order, and none is added. -/
theorem arrange_subset (text : List Char) : arrange text ⊆ text := by
  induction text with
  | nil => exact fun c hc => hc
  | cons c rest ih =>
    intro d hd
    rcases List.mem_cons.1 (mem_of_mem_putMark hd) with rfl | hd
    · exact List.mem_cons_self
    · exact List.mem_cons_of_mem _ (ih hd)

theorem isLower_joinTo {first : Char} {marks text : List Char} (hf : first.toLower = first)
    (hm : IsLower marks) (h : IsLower text) : IsLower (joinTo first marks text) := by
  induction text generalizing first marks with
  | nil => exact isLower_cons.2 ⟨hf, hm⟩
  | cons c rest ih =>
    obtain ⟨hc, hrest⟩ := isLower_cons.1 h
    unfold joinTo
    dsimp only
    split
    · next whole hw =>
      split at hw
      · exact ih (toLower_of_joined? hw) hm hrest
      · cases hw
    · split
      · exact isLower_append.2 ⟨isLower_cons.2 ⟨hf, hm⟩, ih hc isLower_nil hrest⟩
      · exact ih hf (isLower_append.2 ⟨hm, isLower_cons.2 ⟨hc, isLower_nil⟩⟩) hrest

/-- A lowercase text stays so when it is joined. -/
theorem isLower_join {text : List Char} (h : IsLower text) : IsLower (join text) := by
  induction text with
  | nil => exact h
  | cons c rest ih =>
    obtain ⟨hc, hrest⟩ := isLower_cons.1 h
    unfold join
    split
    · exact isLower_joinTo hc isLower_nil hrest
    · exact isLower_cons.2 ⟨hc, ih hrest⟩

/-- Composition makes no letter in upper case. -/
theorem isLower_composed {text : List Char} (h : IsLower text) : IsLower (composed text) :=
  isLower_join ((isLower_takeApart (isLower_takeApart h)).mono (arrange_subset _))

/-! ## Labels -/

theorem toLower_digit {n : Nat} (h : n < 36) : (Punycode.digit n).toLower = Punycode.digit n := by
  have key : ∀ i : Fin 36, (Punycode.digit i).toLower = Punycode.digit i := by decide
  exact key ⟨n, h⟩

theorem isLower_number (bias position n : Nat) : IsLower (Punycode.number bias position n) := by
  have ht := Punycode.threshold_le bias position
  unfold Punycode.number
  dsimp only
  split
  · simpa using toLower_digit (by omega)
  · have hm := Nat.mod_lt (n - Punycode.threshold bias position)
      (show 36 - Punycode.threshold bias position > 0 by omega)
    exact isLower_cons.2 ⟨toLower_digit (by omega), isLower_number _ _ _⟩
termination_by n
decreasing_by
  have := Punycode.threshold_pos bias position
  have := Nat.div_le_self (n - Punycode.threshold bias position)
    (36 - Punycode.threshold bias position)
  omega

theorem isLower_writeFrom (state : Punycode.State) (insertions : List (Nat × Nat)) :
    IsLower (Punycode.writeFrom state insertions) := by
  induction insertions generalizing state with
  | nil => exact isLower_nil
  | cons insertion rest ih => exact isLower_append.2 ⟨isLower_number _ _ _, ih _⟩

/-- Punycode has lowercase digits, so a lowercase text stays so. -/
theorem isLower_encode {text : List Char} (h : IsLower text) :
    IsLower (Punycode.encode text) := by
  refine isLower_append.2 ⟨?_, isLower_writeFrom _ _⟩
  split
  · exact isLower_nil
  · exact isLower_append.2 ⟨fun c hc => h c (List.mem_filter.1 hc).1, by simp⟩

/-- A label that is in ASCII is written as it is. -/
theorem written_of_ascii {text : List Char} (ha : text.all isAscii = true) {label : DomainLabel}
    (h : label? text = some label) : label.written = text := by
  rw [label?, if_pos ha] at h
  split at h
  · unfold decodeLabel? at h
    dsimp only [bind] at h
    split at h
    · cases h
    obtain ⟨meaning, -, h⟩ := Option.bind_eq_some_iff.1 h
    split at h
    · cases h
    split at h
    · cases h
      rfl
    · cases h
  · cases h
    rfl

/-- A label is written in lower case. -/
theorem isLower_of_label? {text : List Char} (hlower : IsLower text) {label : DomainLabel}
    (h : label? text = some label) : IsLower label.written := by
  by_cases ha : text.all isAscii
  · exact (written_of_ascii ha h).symm ▸ hlower
  rw [label?, if_neg ha] at h
  split at h
  · cases h
  split at h
  · cases h
    exact isLower_append.2 ⟨isLower_of_eq rfl (by decide), isLower_encode hlower⟩
  · cases h

/-! ## Names -/

/-- A name is put together from its labels as they are written. -/
theorem exists_labels_of_toAscii? {text name : List Char} (h : toAscii? text = some name) :
    ∃ images labels, images? text = some images ∧
      List.Forall₂ (fun part label => label? part = some label)
        (Text.splitAt '.' (composed images)) labels ∧
      name = ['.'].intercalate (labels.map (·.written)) := by
  obtain ⟨images, hi, h⟩ := Option.bind_eq_some_iff.1 h
  obtain ⟨labels, hl, h⟩ := Option.bind_eq_some_iff.1 h
  split at h
  · cases h
  · exact ⟨images, labels, hi, mapM_eq_some_iff.1 hl, (Option.some.inj h).symm⟩

/-- A name has no letters in upper case. -/
theorem isLower_of_toAscii? {text name : List Char} (h : toAscii? text = some name) :
    IsLower name := by
  obtain ⟨images, labels, hi, hl, rfl⟩ := exists_labels_of_toAscii? h
  have hlower := isLower_composed (isLower_of_images? hi)
  refine Text.forall_mem_intercalate (by decide) fun part hp => ?_
  obtain ⟨label, hm, rfl⟩ := List.mem_map.1 hp
  obtain ⟨part, hpart, hl⟩ := exists_of_mapM_eq_some (mapM_eq_some_iff.2 hl) label hm
  exact isLower_of_label? (fun c hc => hlower c (Text.mem_of_mem_splitAt hpart hc)) hl

/-- A text in ASCII and in lower case is the only name that it can stand for. -/
theorem eq_of_toAscii?_eq_some {text name : List Char} (ha : ∀ c ∈ text, isAscii c = true)
    (hlower : IsLower text) (h : toAscii? text = some name) : name = text := by
  obtain ⟨images, labels, hi, hl, rfl⟩ := exists_labels_of_toAscii? h
  rw [images?_of_ascii ha, Option.some.injEq, List.map_congr_left hlower, List.map_id'] at hi
  subst hi
  rw [composed_of_ascii ha] at hl
  have hparts : ∀ part ∈ Text.splitAt '.' text, part.all isAscii = true := fun part hp =>
    List.all_eq_true.2 fun c hc => ha c (Text.mem_of_mem_splitAt hp hc)
  have hwritten : labels.map (·.written) = Text.splitAt '.' text := by
    clear h
    generalize Text.splitAt '.' text = parts at hl hparts
    induction hl with
    | nil => rfl
    | cons hlabel _ ih =>
      obtain ⟨hpart, hrest⟩ := List.forall_mem_cons.1 hparts
      rw [List.map_cons, written_of_ascii hpart hlabel, ih hrest]
  rw [hwritten, Text.intercalate_splitAt]

/-- It stands for itself if no label of it says that it is in Punycode. -/
theorem toAscii?_eq_self {text : List Char} (ha : ∀ c ∈ text, isAscii c = true)
    (hlower : IsLower text)
    (hmark : ∀ label ∈ Text.splitAt '.' text, encodedMark.isPrefixOf label = false) :
    toAscii? text = some text := by
  have hself : text.map Char.toLower = text := by
    rw [List.map_congr_left hlower, List.map_id']
  have h := toAscii?_of_ascii ha (hself.symm ▸ hmark)
  rwa [hself] at h

end Domain

end NotionProject
