/-!
# Character data given by ranges

A property of characters is a list of ranges of code points, ends included, in rising order.
A mapping of characters is a list of runs, each of which advances with its images.
-/

namespace NotionProject

/-- What holds of each of the first characters holds of every character among them. -/
theorem char_of_forall_fin {n : Nat} {p : Char → Prop} (h : ∀ i : Fin n, p (Char.ofNat i))
    {c : Char} (hc : c.toNat < n) : p c := by
  simpa only [Char.ofNat_toNat] using h ⟨c.toNat, hc⟩

/-- Only the letters of ASCII in upper case have another lower case. -/
theorem toLower_eq_self_of_toNat {c : Char} (h : c.toNat < 0x41 ∨ 0x5A < c.toNat) :
    c.toLower = c := by
  unfold Char.toLower
  refine dif_neg ?_
  rintro ⟨hl, hu⟩
  have hl : 0x41 ≤ c.toNat := hl
  have hu : c.toNat ≤ 0x5A := hu
  omega

/-- What holds of the characters of ASCII and their lower case, and of every character that is its
own lower case, holds of every character and its lower case. -/
theorem char_toLower {p : Char → Char → Prop} (hself : ∀ c : Char, c.toLower = c → p c c)
    (hascii : ∀ n : Fin 128, p (Char.ofNat n) (Char.ofNat n).toLower) (c : Char) :
    p c c.toLower := by
  by_cases h : c.toNat < 0x41 ∨ 0x5A < c.toNat
  · have hc := toLower_eq_self_of_toNat h
    rw [hc]
    exact hself c hc
  · exact char_of_forall_fin (p := fun c => p c c.toLower) hascii (by omega)

/-- A set of code points as ranges, ends included. -/
abbrev CodeRanges := List (Nat × Nat)

/-- Whether the code point of `c` lies in one of the ranges. -/
def CodeRanges.has (ranges : CodeRanges) (c : Char) : Bool :=
  ranges.any fun range => range.1 ≤ c.toNat && c.toNat ≤ range.2

/-- A character is in the set exactly when some range holds its code point. -/
theorem CodeRanges.has_iff {ranges : CodeRanges} {c : Char} :
    ranges.has c = true ↔ ∃ range ∈ ranges, range.1 ≤ c.toNat ∧ c.toNat ≤ range.2 := by
  simp [CodeRanges.has]

/-- A character below all ranges is not in the set. -/
theorem CodeRanges.has_eq_false {ranges : CodeRanges} {c : Char}
    (h : ∀ range ∈ ranges, c.toNat < range.1) : ranges.has c = false := by
  rw [← Bool.not_eq_true, CodeRanges.has_iff]
  rintro ⟨range, hrange, hle, -⟩
  have := h range hrange
  omega

/-- A run of code points `first, first + step, …, last` whose images start at `image` and
advance alike. -/
structure CodeRun where
  first : Nat
  last : Nat
  step : Nat
  image : Nat

/-- The image of a code point of the run. -/
def CodeRun.image? (run : CodeRun) (code : Nat) : Option Nat :=
  if run.first ≤ code ∧ code ≤ run.last ∧ (code - run.first) % run.step = 0 then
    some (run.image + (code - run.first))
  else
    none

end NotionProject
