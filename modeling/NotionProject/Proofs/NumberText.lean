import NotionProject.Proofs.Tokens
import Mathlib.Data.List.DropRight

/-!
# Numbers as they are written

Every number is written as the text of a well-formed numeral (`Number.exists_numeral`): an integer
with its digits, and a binary64 number with those of its shortest decimal, which has a digit other
than zero. At the start of a text a numeral is found by its own text, if nothing comes after it that
could go on with a number (`Numeral.scan_chars`). So a written number is one token
(`Token.list_numberChars`); which number is read from it, `Number.reread` says.
-/

namespace NotionProject

namespace Numeral

/-! ## The text of a numeral -/

/-- Digits, and at least one. -/
structure IsDigits (text : List Char) : Prop where
  ne_nil : text ≠ []
  isDigit : ∀ c ∈ text, c.isDigit = true

/-- Each part of the numeral has digits, and the first part has no zero before others. -/
structure WellFormed (numeral : Numeral) : Prop where
  whole : IsDigits numeral.whole
  zero : ∀ rest, numeral.whole = '0' :: rest → rest = []
  fraction : ∀ digits ∈ numeral.fraction, IsDigits digits
  exponent : ∀ part ∈ numeral.exponent, IsDigits part.2

/-- The text of a fraction. -/
def fractionChars : Option (List Char) → List Char
  | none => []
  | some digits => '.' :: digits

/-- The text of an exponent, which always has a sign. -/
def exponentChars : Option (Bool × List Char) → List Char
  | none => []
  | some (negative, digits) => 'e' :: (if negative then '-' else '+') :: digits

/-- The text of a numeral after its sign. -/
def unsignedChars (numeral : Numeral) : List Char :=
  numeral.whole ++ (fractionChars numeral.fraction ++ exponentChars numeral.exponent)

/-- The text of a numeral. -/
def chars (numeral : Numeral) : List Char :=
  if numeral.negative then '-' :: numeral.unsignedChars else numeral.unsignedChars

/-- The text begins with nothing that could go on with a number. -/
def Ends (text : List Char) : Prop :=
  ∀ c ∈ text.head?, c.isDigit = false ∧ c ∉ ['.', 'e', 'E']

theorem ends_nil : Ends [] := by
  simp [Ends]

/-! ## Finding it again -/

section Scan

variable {rest : List Char}

theorem takeWhile_digits {digits : List Char} (h : ∀ c ∈ digits, c.isDigit = true)
    (hrest : ∀ c ∈ rest.head?, c.isDigit = false) :
    (digits ++ rest).takeWhile Char.isDigit = digits ∧
      (digits ++ rest).dropWhile Char.isDigit = rest := by
  rw [List.takeWhile_append_of_pos h, List.dropWhile_append_of_pos h]
  cases rest with
  | nil => simp
  | cons c rest =>
    have hc : ¬c.isDigit = true := by simpa using hrest c rfl
    rw [List.takeWhile_cons_of_neg hc, List.dropWhile_cons_of_neg hc, List.append_nil]
    exact ⟨rfl, rfl⟩

theorem scanDigits_append {digits : List Char} (h : IsDigits digits)
    (hrest : ∀ c ∈ rest.head?, c.isDigit = false) :
    scanDigits (digits ++ rest) = .ok (digits, rest) := by
  obtain ⟨htake, hdrop⟩ := takeWhile_digits h.isDigit hrest
  obtain ⟨c, more, rfl⟩ := List.exists_cons_of_ne_nil h.ne_nil
  have hc := h.isDigit c List.mem_cons_self
  rw [List.cons_append] at htake hdrop ⊢
  simp only [scanDigits, hc, if_true, htake, hdrop]

theorem scanWhole_append {whole : List Char} (h : IsDigits whole)
    (hzero : ∀ rest, whole = '0' :: rest → rest = [])
    (hrest : ∀ c ∈ rest.head?, c.isDigit = false) :
    scanWhole (whole ++ rest) = .ok (whole, rest) := by
  obtain ⟨c, more, rfl⟩ := List.exists_cons_of_ne_nil h.ne_nil
  obtain ⟨hc, hmore⟩ := List.forall_mem_cons.1 h.isDigit
  rw [List.cons_append]
  by_cases hz : c = '0'
  · subst hz
    obtain rfl := hzero more rfl
    cases rest with
    | nil => rfl
    | cons d rest =>
      have hd := hrest d rfl
      simp [scanWhole, hd]
  · obtain ⟨htake, hdrop⟩ := takeWhile_digits hmore hrest
    simp only [scanWhole, hz, hc, if_true, if_false, htake, hdrop]

theorem scanFraction_append {fraction : Option (List Char)}
    (h : ∀ digits ∈ fraction, IsDigits digits)
    (hrest : ∀ c ∈ rest.head?, c.isDigit = false ∧ c ≠ '.') :
    scanFraction (fractionChars fraction ++ rest) = .ok (fraction, rest) := by
  cases fraction with
  | none =>
    rw [fractionChars, List.nil_append, scanFraction]
    rintro more rfl
    exact (hrest '.' rfl).2 rfl
  | some digits =>
    rw [fractionChars, List.cons_append, scanFraction,
      scanDigits_append (h digits rfl) fun c hc => (hrest c hc).1]
    rfl

theorem scanExponent_append {exponent : Option (Bool × List Char)}
    (h : ∀ part ∈ exponent, IsDigits part.2) (hrest : Ends rest) :
    scanExponent (exponentChars exponent ++ rest) = .ok (exponent, rest) := by
  have hstop : ∀ c ∈ rest.head?, c.isDigit = false := fun c hc => (hrest c hc).1
  cases exponent with
  | none =>
    cases rest with
    | nil => rfl
    | cons c rest =>
      have hc := (hrest c rfl).2
      simp only [List.mem_cons, List.not_mem_nil, or_false, not_or] at hc
      simp [exponentChars, scanExponent, hc]
  | some part =>
    obtain ⟨negative, digits⟩ := part
    have hdigits := scanDigits_append (h _ rfl) hstop
    cases negative <;> simp [exponentChars, scanExponent, hdigits, bind, Except.bind, pure,
      Except.pure]

/-- A numeral is found by its text. -/
theorem scan_chars {numeral : Numeral} (h : numeral.WellFormed) (hrest : Ends rest) :
    scan (numeral.chars ++ rest) = .ok (numeral, rest) := by
  obtain ⟨negative, whole, fraction, exponent⟩ := numeral
  have hexponent : ∀ c ∈ (exponentChars exponent ++ rest).head?, c.isDigit = false ∧ c ≠ '.' := by
    cases exponent with
    | none =>
      intro c hc
      obtain ⟨hdigit, hmarks⟩ := hrest c hc
      exact ⟨hdigit, fun he => hmarks (by simp [he])⟩
    | some part =>
      rintro c ⟨⟩
      decide
  have hfraction : ∀ c ∈ (fractionChars fraction ++ (exponentChars exponent ++ rest)).head?,
      c.isDigit = false := by
    cases fraction with
    | none => exact fun c hc => (hexponent c hc).1
    | some digits =>
      rintro c ⟨⟩
      decide
  have hwhole := scanWhole_append h.whole h.zero hfraction
  have hscan := scanFraction_append h.fraction hexponent
  have hscan' := scanExponent_append h.exponent hrest
  dsimp only at hwhole hscan hscan'
  obtain ⟨c, more, hchars⟩ := List.exists_cons_of_ne_nil h.whole.ne_nil
  have hsign : c ≠ '-' := by
    rintro rfl
    exact absurd (h.whole.isDigit '-' (hchars ▸ List.mem_cons_self)) (by decide)
  unfold chars unsignedChars scan
  cases negative
  · simp only [Bool.false_eq_true, if_false, List.append_assoc]
    split
    · next hminus =>
      -- a part with digits does not begin with a sign
      dsimp only at hchars
      rw [hchars] at hminus
      exact absurd (List.cons.inj hminus).1 hsign
    · simp only [hwhole, hscan, hscan', bind, Except.bind]
      rfl
  · simp only [if_true, List.cons_append, List.append_assoc, hwhole, hscan, hscan', bind,
      Except.bind]
    rfl

end Scan

/-! ## Written digits -/

theorem isDigits_singleton {c : Char} (h : c.isDigit = true) : IsDigits [c] :=
  ⟨List.cons_ne_nil _ _, List.forall_mem_singleton.2 h⟩

theorem isDigits_toDigits (n : Nat) : IsDigits (Nat.toDigits 10 n) where
  ne_nil := Nat.toDigits_ne_nil
  isDigit _ hc := Nat.isDigit_of_mem_toDigits (by decide) (by decide) hc

/-- The first digit of a number is none, unless the number is zero. -/
theorem exists_toDigits_eq_cons {n : Nat} (h : n ≠ 0) :
    ∃ c rest, Nat.toDigits 10 n = c :: rest ∧ c ≠ '0' := by
  induction n using Nat.strongRecOn with
  | ind n ih =>
    by_cases hn : n < 10
    · have key : ∀ i : Fin 10, i.val ≠ 0 → Nat.digitChar i ≠ '0' := by decide
      exact ⟨_, [], Nat.toDigits_of_lt_base hn, key ⟨n, hn⟩ h⟩
    · obtain ⟨c, rest, hdigits, hc⟩ := ih (n / 10) (by omega) (by omega)
      refine ⟨c, rest ++ [Nat.digitChar (n % 10)], ?_, hc⟩
      rw [Nat.toDigits_of_base_le (by decide) (by omega), hdigits, List.cons_append]

/-- The text is that of a well-formed numeral, but for a sign. -/
def IsUnsigned (text : List Char) : Prop :=
  ∃ numeral : Numeral, numeral.WellFormed ∧ numeral.unsignedChars = text

/-- A sign may be put before it. -/
theorem IsUnsigned.exists_chars_eq {text : List Char} (h : IsUnsigned text) (negative : Bool) :
    ∃ numeral : Numeral, numeral.WellFormed ∧
      numeral.chars = if negative then '-' :: text else text := by
  obtain ⟨numeral, hwell, rfl⟩ := h
  exact ⟨{ numeral with negative := negative },
    ⟨hwell.whole, hwell.zero, hwell.fraction, hwell.exponent⟩, rfl⟩

theorem isUnsigned_toDigits (n : Nat) : IsUnsigned (Nat.toDigits 10 n) := by
  refine ⟨⟨false, Nat.toDigits 10 n, none, none⟩, ⟨isDigits_toDigits n, ?_, by simp, by simp⟩, ?_⟩
  · intro rest hzero
    by_cases hn : n = 0
    · rw [hn] at hzero
      exact (List.cons.inj hzero).2.symm
    · obtain ⟨c, more, hdigits, hc⟩ := exists_toDigits_eq_cons hn
      exact absurd (List.cons.inj (hdigits.symm.trans hzero)).1 hc
  · simp [unsignedChars, fractionChars, exponentChars]

end Numeral

namespace Binary64

open Numeral

namespace Decimal

variable {d : Decimal}

/-- Without the zeros at its end, a decimal other than zero begins with another digit. -/
theorem exists_significantDigits_eq (h : d.digits ≠ 0) :
    ∃ c rest, d.significantDigits = c :: rest ∧ c ≠ '0' ∧ IsDigits (c :: rest) := by
  obtain ⟨c, rest, hdigits, hc⟩ := exists_toDigits_eq_cons h
  have hprefix : d.significantDigits <+: c :: rest := hdigits ▸ List.rdropWhile_prefix _ _
  have hne : d.significantDigits ≠ [] := by
    intro hnil
    have hall := List.rdropWhile_eq_nil_iff.1 hnil
    exact hc (beq_iff_eq.1 (hall c (hdigits ▸ List.mem_cons_self)))
  obtain ⟨c', rest', hsignificant⟩ := List.exists_cons_of_ne_nil hne
  rw [hsignificant] at hprefix
  obtain ⟨rfl, hrest⟩ := List.cons_prefix_cons.1 hprefix
  refine ⟨c', rest', hsignificant, hc, List.cons_ne_nil _ _, fun d hd => ?_⟩
  exact (isDigits_toDigits _).isDigit d (hdigits ▸ hprefix.subset hd)

theorem isDigit_of_mem_zeros {n : Nat} : ∀ c ∈ List.replicate n '0', c.isDigit = true := by
  intro c hc
  rw [(List.mem_replicate.1 hc).2]
  decide

/-- Digits with a point among or after them, of which the first one is no zero. -/
theorem isUnsigned_pointAfter (whole : Nat) {c : Char} {rest : List Char} (hc : c ≠ '0')
    (h : IsDigits (c :: rest)) : IsUnsigned (pointAfter (whole + 1) (c :: rest)) := by
  obtain ⟨hdigit, hrest⟩ := List.forall_mem_cons.1 h.isDigit
  let left := c :: (rest.take whole ++ List.replicate (whole - rest.length) '0')
  let right := if (rest.drop whole).isEmpty then ['0'] else rest.drop whole
  have hleft : IsDigits left := by
    refine ⟨List.cons_ne_nil _ _, List.forall_mem_cons.2 ⟨hdigit, ?_⟩⟩
    exact List.forall_mem_append.2 ⟨fun d hd => hrest d (List.mem_of_mem_take hd),
      isDigit_of_mem_zeros⟩
  have hright : IsDigits right := by
    by_cases hempty : (rest.drop whole).isEmpty = true
    · rw [show right = ['0'] from if_pos hempty]
      exact isDigits_singleton (by decide)
    · rw [show right = rest.drop whole from if_neg hempty]
      exact ⟨fun hnil => hempty (by rw [hnil]; rfl), fun d hd => hrest d (List.mem_of_mem_drop hd)⟩
  refine ⟨⟨false, left, some right, none⟩, ⟨hleft, ?_, ?_, by simp⟩, ?_⟩
  · exact fun more hzero => absurd (List.cons.inj hzero).1 hc
  · rintro _ ⟨⟩
    exact hright
  · simp [unsignedChars, fractionChars, exponentChars, pointAfter, left, right]

/-- A decimal other than zero is written as a numeral. -/
theorem isUnsigned_text (h : d.digits ≠ 0) : IsUnsigned d.text := by
  obtain ⟨c, rest, hdigits, hc, hall⟩ := exists_significantDigits_eq h
  obtain ⟨hdigit, hrest⟩ := List.forall_mem_cons.1 hall.isDigit
  have hzero : ∀ (d : Char) (more : List Char), [d] = '0' :: more → more = [] := fun d more he =>
    (List.cons.inj he).2.symm
  unfold text
  dsimp only
  rw [hdigits]
  split
  · exact isUnsigned_pointAfter _ hc hall
  split
  · let fraction := List.replicate ((-d.leadingPower).toNat - 1) '0' ++ c :: rest
    have hfraction : IsDigits fraction :=
      ⟨by simp [fraction], List.forall_mem_append.2 ⟨isDigit_of_mem_zeros, hall.isDigit⟩⟩
    refine ⟨⟨false, ['0'], some fraction, none⟩,
      ⟨isDigits_singleton (by decide), hzero '0', ?_, by simp⟩, ?_⟩
    · rintro _ ⟨⟩
      exact hfraction
    · simp [unsignedChars, fractionChars, exponentChars, fraction]
  · let exponent := (decide (d.leadingPower < 0), Nat.toDigits 10 d.leadingPower.natAbs)
    have hexponent : ∀ part ∈ some exponent, IsDigits part.2 := by
      rintro _ ⟨⟩
      exact isDigits_toDigits _
    cases rest with
    | nil =>
      refine ⟨⟨false, [c], none, some exponent⟩,
        ⟨isDigits_singleton hdigit, hzero c, by simp, hexponent⟩, ?_⟩
      simp [unsignedChars, fractionChars, exponentChars, exponent]
    | cons next rest =>
      refine ⟨⟨false, [c], some (next :: rest), some exponent⟩,
        ⟨isDigits_singleton hdigit, hzero c, ?_, hexponent⟩, ?_⟩
      · rintro _ ⟨⟩
        exact ⟨List.cons_ne_nil _ _, hrest⟩
      · simp [unsignedChars, fractionChars, exponentChars, exponent]

end Decimal

/-! ## Shortest decimals -/

theorem le_nearestEven (num den : Nat) : num / den ≤ nearestEven num den := by
  unfold nearestEven
  dsimp only
  split
  · exact Nat.le_refl _
  · split <;> omega

/-- A decimal on a grid that lies near to a number is not zero. -/
theorem Neighbourhood.digits_ne_zero {nb : Neighbourhood} {power : Int} {d : Decimal}
    (h : nb.onGrid? power = some d) : d.digits ≠ 0 := by
  unfold onGrid? at h
  dsimp only at h
  split at h
  · next hboth =>
    obtain rfl := Option.some.inj h
    simp only [Bool.and_eq_true, bne_iff_ne] at hboth
    have hle := le_nearestEven (nb.value * Nat.pow 10 (-power).toNat)
      (nb.den * Nat.pow 10 power.toNat)
    exact Nat.ne_of_gt (Nat.lt_of_lt_of_le (Nat.pos_of_ne_zero hboth.1.2) hle)
  split at h
  · next hlower =>
    obtain rfl := Option.some.inj h
    simp only [Bool.and_eq_true, bne_iff_ne] at hlower
    exact hlower.2
  split at h
  · obtain rfl := Option.some.inj h
    exact Nat.succ_ne_zero _
  · cases h

/-- The shortest decimal is not zero, unless there is none near enough. -/
theorem digits_shortest (x : Binary64) : x.shortest.digits ≠ 0 ∨ x.shortest = ⟨0, 0⟩ := by
  unfold shortest
  dsimp only
  cases hhit : (List.range 17).findSome? fun (n : Nat) => x.neighbourhood.onGrid?
      (Decimal.floorLog10 x.neighbourhood.value x.neighbourhood.den - (n : Int)) with
  | none => exact Or.inr rfl
  | some d =>
    obtain ⟨n, -, hgrid⟩ := List.exists_of_findSome?_eq_some hhit
    exact Or.inl (Neighbourhood.digits_ne_zero hgrid)

/-- A binary64 number is written as a numeral. -/
theorem exists_numeral_text (x : Binary64) :
    ∃ numeral : Numeral, numeral.WellFormed ∧ numeral.chars = x.text := by
  have hmagnitude : IsUnsigned (if x.isZero then ['0', '.', '0'] else x.shortest.text) := by
    have hzero : IsUnsigned ['0', '.', '0'] := by
      have hdigits : IsDigits ['0'] := isDigits_singleton (by decide)
      refine ⟨⟨false, ['0'], some ['0'], none⟩, ⟨hdigits, by simp, ?_, by simp⟩, rfl⟩
      rintro _ ⟨⟩
      exact hdigits
    split
    · exact hzero
    · rcases x.digits_shortest with hne | heq
      · exact Decimal.isUnsigned_text hne
      · rw [heq]
        exact hzero
  exact hmagnitude.exists_chars_eq x.negative

end Binary64

/-! ## Written numbers -/

/-- Every number is written as the text of a well-formed numeral. -/
theorem Number.exists_numeral (n : Number) :
    ∃ numeral : Numeral, numeral.WellFormed ∧ numeral.chars = Json.numberChars n := by
  cases n with
  | integer n =>
    cases n with
    | ofNat n => exact (Numeral.isUnsigned_toDigits n).exists_chars_eq false
    | negSucc n => exact (Numeral.isUnsigned_toDigits (n + 1)).exists_chars_eq true
  | real x => exact x.exists_numeral_text

/-- The number that is read where a number was written. -/
def Number.reread (n : Number) : Except TextError Number :=
  match Numeral.scan (Json.numberChars n) with
  | .ok (numeral, _) => numeral.value
  | .error fault => .error fault.reading

namespace Token

/-- A token that begins with a sign or a digit is a number. -/
theorem scan_of_numeric {c : Char} (h : c = '-' ∨ c.isDigit = true) (rest : List Char) :
    isSpace c = false ∧ scan c rest = scanNumber (c :: rest) := by
  have hne : ∀ mark : Char, mark ≠ '-' → mark.isDigit = false → c ≠ mark := by
    rintro mark hminus hdigit rfl
    rcases h with rfl | h
    · exact hminus rfl
    · rw [hdigit] at h
      cases h
  constructor
  · simp [isSpace, hne]
  · simp [scan, hne, h]

theorem exists_chars_eq_cons {numeral : Numeral} (h : numeral.WellFormed) :
    ∃ c rest, numeral.chars = c :: rest ∧ (c = '-' ∨ c.isDigit = true) := by
  unfold Numeral.chars
  split
  · exact ⟨'-', _, rfl, Or.inl rfl⟩
  · obtain ⟨c, more, hwhole⟩ := List.exists_cons_of_ne_nil h.whole.ne_nil
    refine ⟨c, _, by rw [Numeral.unsignedChars, hwhole, List.cons_append], Or.inr ?_⟩
    exact h.whole.isDigit c (hwhole ▸ List.mem_cons_self)

/-- A written number is one token. -/
theorem list_numberChars (n : Number) {rest : List Char} (hrest : Numeral.Ends rest) :
    list (Json.numberChars n ++ rest) = .number n.reread :: list rest := by
  obtain ⟨numeral, hwell, hchars⟩ := n.exists_numeral
  have hscan := Numeral.scan_chars hwell hrest
  have hwhole := Numeral.scan_chars hwell Numeral.ends_nil
  rw [List.append_nil] at hwhole
  obtain ⟨c, more, hcons, hnumeric⟩ := exists_chars_eq_cons hwell
  obtain ⟨hspace, hnumber⟩ := scan_of_numeric hnumeric (more ++ rest)
  rw [Number.reread, ← hchars, hwhole]
  rw [hcons, List.cons_append] at hscan ⊢
  refine list_step hspace ?_
  rw [hnumber, scanNumber, hscan]

end Token

end NotionProject
