import NotionProject.Text.Ranges

/-!
# Digits in base sixteen

`takeHex` takes a fixed number of digits off the start of a text, `takeGroups` several
groups of them with hyphens between.
-/

namespace NotionProject

/-- A digit in base sixteen, of either case. -/
def isHexDigit (c : Char) : Bool :=
  ('0' ≤ c && c ≤ '9') || ('a' ≤ c && c ≤ 'f') || ('A' ≤ c && c ≤ 'F')

/-- A digit in base sixteen in lower case. -/
def isLowerHexDigit (c : Char) : Bool :=
  ('0' ≤ c && c ≤ '9') || ('a' ≤ c && c ≤ 'f')

namespace Text

/-- The first `n` characters, if they are digits, and the text after them. -/
def takeHex : Nat → List Char → Option (List Char × List Char)
  | 0, text => some ([], text)
  | _ + 1, [] => none
  | n + 1, c :: text =>
    if isHexDigit c then (takeHex n text).map fun found => (c :: found.1, found.2) else none

/-- Groups of digits of the given lengths with a hyphen between each two, and the text after
them. The digits come without the hyphens. -/
def takeGroups : List Nat → List Char → Option (List Char × List Char)
  | [], text => some ([], text)
  | [n], text => takeHex n text
  | n :: more, text =>
    match takeHex n text with
    | some (digits, '-' :: text) =>
      (takeGroups more text).map fun found => (digits ++ found.1, found.2)
    | _ => none

/-- What `take` finds, if it takes the whole text. -/
def takeAll (take : List Char → Option (List Char × List Char)) (text : List Char) :
    Option (List Char) :=
  match take text with
  | some (digits, []) => some digits
  | _ => none

/-- What was taken is the start of the text, and all of it digits. -/
theorem eq_append_of_takeHex {n : Nat} {text digits rest : List Char}
    (h : takeHex n text = some (digits, rest)) :
    text = digits ++ rest ∧ digits.length = n ∧ ∀ c ∈ digits, isHexDigit c = true := by
  induction n generalizing text digits with
  | zero => simp [takeHex] at h; simp [h]
  | succ n ih =>
    cases text with
    | nil => simp [takeHex] at h
    | cons c text =>
      by_cases hc : isHexDigit c
      · simp only [takeHex, hc, if_true, Option.map_eq_some_iff, Prod.mk.injEq] at h
        obtain ⟨⟨d, r⟩, hd, rfl, rfl⟩ := h
        obtain ⟨rfl, hl, hall⟩ := ih hd
        refine ⟨rfl, by simp [hl], fun x hx => ?_⟩
        rcases List.mem_cons.1 hx with rfl | hx
        · exact hc
        · exact hall x hx
      · simp [takeHex, hc] at h

/-- The groups hold as many digits as their lengths add up to. -/
theorem isHex_of_takeGroups {lengths : List Nat} {text digits rest : List Char}
    (h : takeGroups lengths text = some (digits, rest)) :
    digits.length = lengths.foldr (· + ·) 0 ∧ ∀ c ∈ digits, isHexDigit c = true := by
  fun_induction takeGroups lengths text generalizing digits with
  | case1 text => simp at h; simp [h.1]
  | case2 n text => obtain ⟨-, hl, hall⟩ := eq_append_of_takeHex h; exact ⟨by simp [hl], hall⟩
  | case3 n more hne text found text' hfound ih =>
    simp only [Option.map_eq_some_iff, Prod.mk.injEq] at h
    obtain ⟨⟨d, r⟩, hd, rfl, rfl⟩ := h
    obtain ⟨-, hl, hall⟩ := eq_append_of_takeHex hfound
    obtain ⟨hl', hall'⟩ := ih hd
    refine ⟨by simp [hl, hl'], fun c hc => ?_⟩
    rcases List.mem_append.1 hc with hc | hc
    · exact hall c hc
    · exact hall' c hc
  | case4 => simp at h

theorem eq_some_of_takeAll {take : List Char → Option (List Char × List Char)}
    {text digits : List Char} (h : takeAll take text = some digits) :
    take text = some (digits, []) := by
  unfold takeAll at h
  split at h
  next d hd => cases h; exact hd
  next => cases h

end Text

theorem toNat_lt_of_isHexDigit {c : Char} (h : isHexDigit c = true) : c.toNat < 128 := by
  have hle : ∀ d : Char, c ≤ d → c.toNat ≤ d.toNat := fun d hd => hd
  simp only [isHexDigit, Bool.or_eq_true, Bool.and_eq_true, decide_eq_true_eq] at h
  rcases h with (⟨-, h⟩ | ⟨-, h⟩) | ⟨-, h⟩ <;> exact Nat.lt_of_le_of_lt (hle _ h) (by decide)

/-- What holds of the digits among the characters of ASCII holds of every digit. -/
theorem of_isHexDigit {p : Char → Prop}
    (h : ∀ n : Fin 128, isHexDigit (Char.ofNat n) = true → p (Char.ofNat n)) {c : Char}
    (hc : isHexDigit c = true) : p c :=
  char_of_forall_fin (p := fun c => isHexDigit c = true → p c) h (toNat_lt_of_isHexDigit hc) hc

/-- A digit in lower case is a lower case digit. -/
theorem isLowerHexDigit_toLower {c : Char} (h : isHexDigit c = true) :
    isLowerHexDigit c.toLower = true :=
  of_isHexDigit (p := fun c => isLowerHexDigit c.toLower = true) (by decide) h

end NotionProject
