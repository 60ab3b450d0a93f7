import NotionProject.Text.Case
import Mathlib.Data.List.Basic
import Mathlib.Data.List.Forall2

/-!
# Lowercase text, character by character

Two texts are alike but for case (`SameLetters`) if at each place their characters have the same
lowercase form, alone. The lowercase forms of such texts are the same but for the capital sigma,
whose form depends on its place: they are equal exactly if no capital sigma that ends a word stands
against another character (`lowercase_eq_iff`).

What decides whether a sigma ends a word is which characters around it are cased and which are
case-ignorable, and these properties are the same before and after lowercasing
(`hasSameClass_lowerChar`). The tables are compared as sets of code points, each set the bits of one
number (`CodeRanges.set`).
-/

namespace NotionProject

/-! ## Sets of code points -/

/-- The code points of the ranges, as the bits of a number. -/
def CodeRanges.set (ranges : CodeRanges) : Nat :=
  ranges.foldr (fun range set => (1 <<< (range.2 + 1 - range.1) - 1) <<< range.1 ||| set) 0

/-- In the number of a table a bit is set for every code point of a range. -/
theorem CodeRanges.testBit_set (ranges : CodeRanges) (code : Nat) :
    ranges.set.testBit code = ranges.any fun range => range.1 ≤ code && code ≤ range.2 := by
  induction ranges with
  | nil => simp [set]
  | cons range rest ih =>
    have hrange : ((1 <<< (range.2 + 1 - range.1) - 1) <<< range.1).testBit code =
        (decide (range.1 ≤ code) && decide (code ≤ range.2)) := by
      rw [Nat.testBit_shiftLeft, Nat.one_shiftLeft, Nat.testBit_two_pow_sub_one, Bool.eq_iff_iff]
      simp only [ge_iff_le, Bool.and_eq_true, decide_eq_true_eq]
      omega
    rw [List.any_cons, ← ih, ← hrange, ← Nat.testBit_or]
    rfl

/-- So a character is in the table if its bit is set. -/
theorem CodeRanges.has_eq_testBit (ranges : CodeRanges) (c : Char) :
    ranges.has c = ranges.set.testBit c.toNat :=
  (ranges.testBit_set c.toNat).symm

/-- The code points of a run and their images. -/
def CodeRun.codes (run : CodeRun) : CodeRanges :=
  (List.range (run.last - run.first + 1)).flatMap fun offset =>
    if offset % run.step = 0 then
      [(run.first + offset, run.first + offset), (run.image + offset, run.image + offset)]
    else []

/-- A code point with an image is one of the codes of the run, and so is the image. -/
theorem CodeRun.testBit_codes {run : CodeRun} {code image : Nat}
    (h : run.image? code = some image) :
    run.codes.set.testBit code = true ∧ run.codes.set.testBit image = true := by
  unfold image? at h
  split at h
  · next hcode =>
    obtain ⟨hfirst, hlast, hstep⟩ := hcode
    obtain rfl := Option.some.inj h
    have hmem : ∀ range ∈ [(code, code), (run.image + (code - run.first),
        run.image + (code - run.first))], range ∈ run.codes := by
      intro range hrange
      refine List.mem_flatMap.2 ⟨code - run.first, List.mem_range.2 (by omega), ?_⟩
      rw [if_pos hstep, Nat.add_sub_cancel' hfirst]
      exact hrange
    simp only [CodeRanges.testBit_set, List.any_eq_true, Bool.and_eq_true, decide_eq_true_eq]
    exact ⟨⟨(code, code), hmem _ (by simp), Nat.le_refl _, Nat.le_refl _⟩,
      ⟨(run.image + (code - run.first), run.image + (code - run.first)), hmem _ (by simp),
        Nat.le_refl _, Nat.le_refl _⟩⟩
  · cases h

/-- All characters of which one is the lowercase form of the other are cased. -/
theorem codes_subset_cased :
    ∀ run ∈ caseRuns, run.codes.set &&& casedRanges.set = run.codes.set := by
  decide +kernel

/-- None of them is case-ignorable. -/
theorem codes_disjoint_caseIgnorable :
    ∀ run ∈ caseRuns, run.codes.set &&& caseIgnorableRanges.set = 0 := by
  decide +kernel

/-- No image is a surrogate or past the last code point. -/
theorem image_isValidChar : ∀ run ∈ caseRuns, run.image + (run.last - run.first) < 0xD800 ∨
    0xDFFF < run.image ∧ run.image + (run.last - run.first) < 0x110000 := by
  decide +kernel

theorem toNat_ofNat_image {run : CodeRun} (hrun : run ∈ caseRuns) {code image : Nat}
    (h : run.image? code = some image) : (Char.ofNat image).toNat = image := by
  have hbounds := image_isValidChar run hrun
  unfold CodeRun.image? at h
  split at h
  · obtain rfl := Option.some.inj h
    have hvalid : (run.image + (code - run.first)).isValidChar := by
      unfold Nat.isValidChar
      omega
    rw [Char.ofNat, dif_pos hvalid]
    rfl
  · cases h

/-! ## Classes of characters -/

/-- Both characters are cased or none is, and both are case-ignorable or none is. -/
structure HasSameClass (c d : Char) : Prop where
  cased_eq : casedRanges.has c = casedRanges.has d
  ignorable_eq : caseIgnorableRanges.has c = caseIgnorableRanges.has d

theorem HasSameClass.trans {a b c : Char} (h : HasSameClass a b) (h' : HasSameClass b c) :
    HasSameClass a c :=
  ⟨h.cased_eq.trans h'.cased_eq, h.ignorable_eq.trans h'.ignorable_eq⟩

theorem HasSameClass.symm {a b : Char} (h : HasSameClass a b) : HasSameClass b a :=
  ⟨h.cased_eq.symm, h.ignorable_eq.symm⟩

/-- A character that has an image, or is one, is cased and not case-ignorable. -/
theorem classes_of_mem_codes {run : CodeRun} (hrun : run ∈ caseRuns) {c : Char}
    (h : run.codes.set.testBit c.toNat = true) :
    casedRanges.has c = true ∧ caseIgnorableRanges.has c = false := by
  have hcased := congrArg (Nat.testBit · c.toNat) (codes_subset_cased run hrun)
  have hignorable := congrArg (Nat.testBit · c.toNat) (codes_disjoint_caseIgnorable run hrun)
  simp only [Nat.testBit_and, h, Bool.true_and, Nat.zero_testBit] at hcased hignorable
  exact ⟨(casedRanges.has_eq_testBit c).trans hcased,
    (caseIgnorableRanges.has_eq_testBit c).trans hignorable⟩

/-- The lowercase form of a character begins with a character of the same class. -/
theorem hasSameClass_lowerChar (c : Char) :
    ∃ d rest, lowerChar c = d :: rest ∧ HasSameClass c d := by
  unfold lowerChar
  split
  · next hdotted =>
    obtain rfl : c = Char.ofNat 0x130 := by rw [← hdotted, Char.ofNat_toNat]
    exact ⟨'i', ['\u0307'], rfl, by decide +kernel, by decide +kernel⟩
  · split
    · next image himage =>
      obtain ⟨run, hrun, himage⟩ := List.exists_of_findSome?_eq_some himage
      obtain ⟨hcode, hbit⟩ := CodeRun.testBit_codes himage
      rw [← toNat_ofNat_image hrun himage] at hbit
      obtain ⟨hcased, hignorable⟩ := classes_of_mem_codes hrun hcode
      obtain ⟨hcased', hignorable'⟩ := classes_of_mem_codes hrun hbit
      exact ⟨_, [], rfl, hcased.trans hcased'.symm, hignorable.trans hignorable'.symm⟩
    · exact ⟨c, [], rfl, rfl, rfl⟩

/-- Characters of one lowercase form look the same to a sigma beside them. -/
theorem HasSameClass.of_lowerChar_eq {c d : Char} (h : lowerChar c = lowerChar d) :
    HasSameClass c d := by
  obtain ⟨a, rest, hc, hclass⟩ := hasSameClass_lowerChar c
  obtain ⟨b, rest', hd, hclass'⟩ := hasSameClass_lowerChar d
  obtain ⟨rfl, -⟩ := List.cons.inj (hc.symm.trans (h.trans hd))
  exact hclass.trans hclass'.symm

/-! ## Texts that are alike but for case -/

/-- The texts have the same number of characters, and at each place the same lowercase form of one
character, alone. -/
def SameLetters (text other : List Char) : Prop :=
  List.Forall₂ (fun c d => lowerChar c = lowerChar d) text other

theorem startsCased_cons (c : Char) (rest : List Char) : startsCased (c :: rest) =
    if caseIgnorableRanges.has c then startsCased rest else casedRanges.has c := by
  unfold startsCased
  by_cases hc : caseIgnorableRanges.has c
  · rw [List.dropWhile_cons_of_pos hc, if_pos hc]
  · rw [List.dropWhile_cons_of_neg hc, if_neg hc]

/-- Texts of the same letters begin alike, with a cased character or without. -/
theorem startsCased_congr {text other : List Char} (h : SameLetters text other) :
    startsCased text = startsCased other := by
  induction h with
  | nil => rfl
  | cons hlower _ ih =>
    have hclass := HasSameClass.of_lowerChar_eq hlower
    rw [startsCased_cons, startsCased_cons, hclass.ignorable_eq, hclass.cased_eq, ih]

/-- A place between the text before it, last character first, and the text after it is the end of a
word. -/
def EndsWord (before after : List Char) : Prop :=
  startsCased before = true ∧ startsCased after = false

/-- A sigma is written as in the middle of a word unless it ends one. -/
theorem lowerSigma_eq_iff {before after : List Char} :
    lowerSigma before after = 'σ' ↔ ¬EndsWord before after := by
  unfold lowerSigma EndsWord
  cases startsCased before <;> cases startsCased after <;> decide

/-- Between the same letters a sigma has the same form. -/
theorem lowerSigma_congr {before before' after after' : List Char} (h : SameLetters before before')
    (h' : SameLetters after after') : lowerSigma before after = lowerSigma before' after' := by
  rw [lowerSigma, lowerSigma, startsCased_congr h, startsCased_congr h']

/-- The lowercase form of a character between the text before it, last character first, and the text
after it. -/
def lowerAt (before : List Char) (c : Char) (after : List Char) : List Char :=
  if c = 'Σ' then [lowerSigma before after] else lowerChar c

theorem lowerAfter_cons (before : List Char) (c : Char) (rest : List Char) :
    lowerAfter before (c :: rest) = lowerAt before c rest ++ lowerAfter (c :: before) rest :=
  rfl

theorem lowerChar_sigma : lowerChar 'Σ' = ['σ'] := by decide +kernel

/-- How many characters a form has does not depend on where its character stands. -/
theorem length_lowerAt (before : List Char) (c : Char) (after : List Char) :
    (lowerAt before c after).length = (lowerChar c).length := by
  unfold lowerAt
  split
  · next hc => rw [hc, lowerChar_sigma, List.length_singleton, List.length_singleton]
  · rfl

/-- A capital sigma at the end of a word does not stand against another character. -/
def SigmaMeets (before : List Char) (c : Char) (after : List Char) (d : Char) : Prop :=
  (c = 'Σ' ↔ d = 'Σ') ∨ ¬EndsWord before after

/-- Characters that are alike but for case have the same form at their places exactly if none of
them is a capital sigma that ends a word against another character. -/
theorem lowerAt_eq_iff {before before' after after' : List Char} {c d : Char}
    (hb : SameLetters before before') (ha : SameLetters after after')
    (h : lowerChar c = lowerChar d) :
    lowerAt before c after = lowerAt before' d after' ↔ SigmaMeets before c after d := by
  have hsigma := lowerSigma_congr hb ha
  unfold lowerAt SigmaMeets
  by_cases hc : c = 'Σ' <;> by_cases hd : d = 'Σ'
  · simp [hc, hd, hsigma]
  · have hlower : lowerChar d = ['σ'] := by rw [← h, hc, lowerChar_sigma]
    simp [hc, hd, hlower, lowerSigma_eq_iff]
  · have hlower : lowerChar c = ['σ'] := by rw [h, hd, lowerChar_sigma]
    rw [if_neg hc, if_pos hd, hlower, ← hsigma, List.singleton_inj, eq_comm, lowerSigma_eq_iff]
    simp [hc, hd]
  · simp [hc, hd, h]

/-- At every place of the texts the capital sigmas meet. -/
def SigmasMeet (before text other : List Char) : Prop :=
  ∀ i c d, text[i]? = some c → other[i]? = some d →
    SigmaMeets ((text.take i).reverse ++ before) c (text.drop (i + 1)) d

/-- Sigmas meet place by place. -/
theorem sigmasMeet_cons {before text other : List Char} {c d : Char} :
    SigmasMeet before (c :: text) (d :: other) ↔
      SigmaMeets before c text d ∧ SigmasMeet (c :: before) text other := by
  have hbefore : ∀ i, ((c :: text).take (i + 1)).reverse ++ before =
      (text.take i).reverse ++ c :: before := by
    intro i
    simp
  constructor
  · intro h
    refine ⟨h 0 c d rfl rfl, fun i a b ha hb => ?_⟩
    have hmeets := h (i + 1) a b ha hb
    rwa [hbefore] at hmeets
  · rintro ⟨hhead, htail⟩ i a b ha hb
    cases i with
    | zero =>
      obtain rfl := Option.some.inj ha
      obtain rfl := Option.some.inj hb
      exact hhead
    | succ i =>
      rw [hbefore]
      exact htail i a b ha hb

/-- Texts of the same letters have one lowercase form exactly if their sigmas meet. -/
theorem lowerAfter_eq_iff {before before' text other : List Char}
    (hb : SameLetters before before') (h : SameLetters text other) :
    lowerAfter before text = lowerAfter before' other ↔ SigmasMeet before text other := by
  induction h generalizing before before' with
  | nil => exact iff_of_true rfl fun i c d hc => by simp at hc
  | @cons c d text other hlower htail ih =>
    have hlength : (lowerAt before c text).length = (lowerAt before' d other).length := by
      rw [length_lowerAt, length_lowerAt, hlower]
    rw [lowerAfter_cons, lowerAfter_cons, sigmasMeet_cons, ← ih (.cons hlower hb),
      ← lowerAt_eq_iff hb htail hlower]
    constructor
    · exact fun he => List.append_inj he hlength
    · rintro ⟨hhead, hrest⟩
      rw [hhead, hrest]

/-- Texts that are alike but for case have the same lowercase form exactly if no capital sigma that
ends a word stands against another character. -/
theorem lowercase_eq_iff {text other : String} (h : SameLetters text.toList other.toList) :
    lowercase text = lowercase other ↔ SigmasMeet [] text.toList other.toList := by
  rw [lowercase, lowercase, String.ofList_inj, lowerAfter_eq_iff .nil h]

end NotionProject
