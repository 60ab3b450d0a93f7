/-!
# Texts in parts

`Text.splitAt` gives the parts of a text between the places where one character stands. With
that character between them again they make up the text (`intercalate_splitAt`), and it is in
none of them (`notMem_of_mem_splitAt`); parts without it are again the parts of the text that
they make up (`splitAt_intercalate`). `Text.splitFirst` and `Text.splitLast?` take a text apart
at one such place.
-/

namespace NotionProject

namespace Text

/-- The parts of a text between the characters `mark`. -/
def splitAt (mark : Char) : List Char → List (List Char)
  | [] => [[]]
  | c :: rest =>
    if c = mark then [] :: splitAt mark rest
    else
      match splitAt mark rest with
      | [] => [[c]]
      | part :: parts => (c :: part) :: parts

/-- There is always a part. -/
theorem splitAt_ne_nil (mark : Char) (text : List Char) : splitAt mark text ≠ [] := by
  cases text with
  | nil => simp [splitAt]
  | cons c rest =>
    rw [splitAt]
    split
    · simp
    · split <;> simp

/-- The parts with the character between them make up the text. -/
theorem intercalate_splitAt (mark : Char) (text : List Char) :
    [mark].intercalate (splitAt mark text) = text := by
  induction text with
  | nil => rfl
  | cons c rest ih =>
    obtain ⟨part, parts, hparts⟩ := List.exists_cons_of_ne_nil (splitAt_ne_nil mark rest)
    rw [hparts] at ih
    by_cases hc : c = mark
    · simpa [splitAt, hc, hparts, List.intercalate] using ih
    · rw [splitAt, if_neg hc, hparts]
      cases parts with
      | nil => simpa [List.intercalate] using ih
      | cons next parts => simpa [List.intercalate] using ih

/-- No part holds the character. -/
theorem notMem_of_mem_splitAt {mark : Char} {text part : List Char}
    (h : part ∈ splitAt mark text) : mark ∉ part := by
  induction text generalizing part with
  | nil => simp_all [splitAt]
  | cons c rest ih =>
    obtain ⟨first, parts, hparts⟩ := List.exists_cons_of_ne_nil (splitAt_ne_nil mark rest)
    rw [hparts] at ih
    by_cases hc : c = mark
    · rw [splitAt, if_pos hc, hparts] at h
      rcases List.mem_cons.1 h with rfl | h
      · simp
      · exact ih h
    · rw [splitAt, if_neg hc, hparts] at h
      rcases List.mem_cons.1 h with rfl | h
      · simpa [Ne.symm hc] using ih List.mem_cons_self
      · exact ih (List.mem_cons_of_mem _ h)

/-- The characters of a part are those of the text. -/
theorem mem_of_mem_splitAt {mark c : Char} {text part : List Char}
    (h : part ∈ splitAt mark text) (hc : c ∈ part) : c ∈ text := by
  induction text generalizing part with
  | nil => simp_all [splitAt]
  | cons d rest ih =>
    obtain ⟨first, parts, hparts⟩ := List.exists_cons_of_ne_nil (splitAt_ne_nil mark rest)
    rw [hparts] at ih
    by_cases hd : d = mark
    · rw [splitAt, if_pos hd, hparts] at h
      rcases List.mem_cons.1 h with rfl | h
      · simp at hc
      · exact List.mem_cons_of_mem _ (ih h hc)
    · rw [splitAt, if_neg hd, hparts] at h
      rcases List.mem_cons.1 h with rfl | h
      · rcases List.mem_cons.1 hc with rfl | hc
        · simp
        · exact List.mem_cons_of_mem _ (ih List.mem_cons_self hc)
      · exact List.mem_cons_of_mem _ (ih (List.mem_cons_of_mem _ h) hc)

/-- A text without the character is its only part. -/
theorem splitAt_of_notMem {mark : Char} {text : List Char} (h : mark ∉ text) :
    splitAt mark text = [text] := by
  induction text with
  | nil => rfl
  | cons c rest ih =>
    rw [List.mem_cons, not_or] at h
    rw [splitAt, if_neg (Ne.symm h.1), ih h.2]

/-- The first part ends where the character stands first. -/
theorem splitAt_append {mark : Char} {part : List Char} (h : mark ∉ part) (rest : List Char) :
    splitAt mark (part ++ mark :: rest) = part :: splitAt mark rest := by
  induction part with
  | nil => simp [splitAt]
  | cons c part ih =>
    rw [List.mem_cons, not_or] at h
    rw [List.cons_append, splitAt, if_neg (Ne.symm h.1), ih h.2]

/-- Parts without the character are the parts of the text that they make up. -/
theorem splitAt_intercalate {mark : Char} : ∀ {parts : List (List Char)}, parts ≠ [] →
    (∀ part ∈ parts, mark ∉ part) → splitAt mark ([mark].intercalate parts) = parts
  | [], hne, _ => absurd rfl hne
  | [part], _, h => by
    rw [List.intercalate_singleton]
    exact splitAt_of_notMem (h part List.mem_cons_self)
  | part :: next :: rest, _, h => by
    have ih := splitAt_intercalate (List.cons_ne_nil next rest)
      fun p hp => h p (List.mem_cons_of_mem _ hp)
    rw [List.intercalate_cons_cons, List.append_assoc, List.singleton_append,
      splitAt_append (h part List.mem_cons_self), ih]

/-- The characters of the whole are those of the parts, and the one between them. -/
theorem forall_mem_intercalate {p : Char → Prop} {mark : Char} (hm : p mark) :
    ∀ {parts : List (List Char)}, (∀ part ∈ parts, ∀ c ∈ part, p c) →
      ∀ c ∈ [mark].intercalate parts, p c
  | [], _ => List.forall_mem_nil _
  | [part], h => by simpa using h
  | part :: next :: rest, h => by
    obtain ⟨hpart, hrest⟩ := List.forall_mem_cons.1 h
    have ih := forall_mem_intercalate hm hrest
    rw [List.intercalate_cons_cons, List.append_assoc, List.singleton_append]
    exact List.forall_mem_append.2 ⟨hpart, List.forall_mem_cons.2 ⟨hm, ih⟩⟩

/-- The text before the first character `mark`, and the text after it. -/
def splitFirst (mark : Char) (text : List Char) : List Char × Option (List Char) :=
  match text.dropWhile (· != mark) with
  | [] => (text, none)
  | _ :: after => (text.takeWhile (· != mark), some after)

/-- The texts before and after the last character `mark`. -/
def splitLast? (mark : Char) : List Char → Option (List Char × List Char)
  | [] => none
  | c :: rest =>
    match splitLast? mark rest with
    | some (before, after) => some (c :: before, after)
    | none => if c = mark then some ([], rest) else none

theorem bne_of_notMem {mark : Char} {text : List Char} (h : mark ∉ text) :
    ∀ c ∈ text, (c != mark) = true := by
  rintro c hc
  simpa using fun he : c = mark => h (he ▸ hc)

theorem splitFirst_of_notMem {mark : Char} {text : List Char} (h : mark ∉ text) :
    splitFirst mark text = (text, none) := by
  have hd : (text ++ []).dropWhile (· != mark) = [] :=
    List.dropWhile_append_of_pos (bne_of_notMem h)
  rw [List.append_nil] at hd
  rw [splitFirst, hd]

theorem splitFirst_append {mark : Char} {before : List Char} (h : mark ∉ before)
    (after : List Char) : splitFirst mark (before ++ mark :: after) = (before, some after) := by
  simp [splitFirst, List.dropWhile_append_of_pos (bne_of_notMem h),
    List.takeWhile_append_of_pos (bne_of_notMem h)]

theorem splitLast?_of_notMem {mark : Char} {text : List Char} (h : mark ∉ text) :
    splitLast? mark text = none := by
  induction text with
  | nil => rfl
  | cons c rest ih =>
    rw [List.mem_cons, not_or] at h
    simp [splitLast?, ih h.2, Ne.symm h.1]

theorem splitLast?_append {mark : Char} {after : List Char} (h : mark ∉ after)
    (before : List Char) :
    splitLast? mark (before ++ mark :: after) = some (before, after) := by
  induction before with
  | nil => simp [splitLast?, splitLast?_of_notMem h]
  | cons c before ih => simp [splitLast?, ih]

end Text

end NotionProject
