import NotionProject.Proofs.Reading

/-!
# How much of a text a source holds

The source of a text holds no more than there is in the text (`Source.within_ofText`): no string in
it has more characters, no array more items, and an integer is one of 64 bits (`Source.Within`).

For strings and numbers that is so of every token. For arrays it is shown along the run of the
machine (`Source.Fits`): an item of an open array has taken a token, the array has taken one itself,
and what it may still take are the tokens that are left. One lemma says that a token keeps this
(`Source.fits_step`), and a run comes to a source that holds no more by induction on the tokens.
-/

namespace NotionProject

/-- Every string in the source has at most so many characters, every array at most so many items,
and every integer fits in 64 bits. -/
inductive Source.Within (n : Nat) : Source → Prop
  | null : Within n null
  | bool (b : Bool) : Within n (bool b)
  | number {k : Except TextError Number} :
      (∀ i, k = .ok (.integer i) → i.natAbs < Nat.pow 2 64) → Within n (number k)
  | string {s : Except TextError String} : (∀ text, s = .ok text → text.length ≤ n) →
      Within n (string s)
  | array {items : List Source} (fault : Option Fault) :
      items.length ≤ n → (∀ item ∈ items, Within n item) → Within n (array items fault)
  | object {members : List (Except TextError String × Source)} (fault : Option Fault) :
      (∀ member ∈ members, Within n member.2) → Within n (object members fault)
  | deep {container : Source} : Within n container → Within n (deep container)
  | broken (fault : Fault) : Within n (broken fault)

/-- What holds no more than a number holds no more than a larger one. -/
theorem Source.Within.mono {n m : Nat} {source : Source} (h : source.Within n) (hle : n ≤ m) :
    source.Within m := by
  induction h with
  | null => exact .null
  | bool b => exact .bool b
  | number h => exact .number h
  | string h => exact .string fun text htext => Nat.le_trans (h text htext) hle
  | array fault hlength _ ih => exact .array fault (Nat.le_trans hlength hle) ih
  | object fault _ ih => exact .object fault ih
  | deep _ ih => exact .deep ih
  | broken fault => exact .broken fault

/-! ## Numbers -/

namespace Numeral

/-- A digit is taken in only if the number still has 64 bits then. -/
theorem absorb_lt {n : Nat} (digits : List Char) (h : n < Nat.pow 2 64) :
    (absorb n digits).1 < Nat.pow 2 64 := by
  induction digits generalizing n with
  | nil => exact h
  | cons c rest ih =>
    rw [absorb]
    split
    · next hlonger => exact ih hlonger
    · exact h

/-- A minus sign leaves the size as it is, and a number that is too large for one becomes real. -/
theorem natAbs_lt_of_integer? {negative : Bool} {n : Nat} {i : Int} (hn : n < Nat.pow 2 64)
    (h : integer? negative n = some (.integer i)) : i.natAbs < Nat.pow 2 64 := by
  unfold integer? at h
  split at h
  · split at h
    · cases h
      rwa [Int.natAbs_neg, Int.natAbs_natCast]
    · cases hreal : Binary64.ofRatio? false n 1 <;> simp [hreal] at h
  · cases h
    rwa [Int.natAbs_natCast]

/-- An integer is one of 64 bits. -/
theorem natAbs_lt_of_value {numeral : Numeral} {i : Int} (h : numeral.value = .ok (.integer i)) :
    i.natAbs < Nat.pow 2 64 := by
  unfold value at h
  split at h
  · next number hnumber =>
    cases h
    have hwhole : (absorb 0 numeral.whole).1 < Nat.pow 2 64 := absorb_lt numeral.whole (by decide)
    unfold number? at hnumber
    rcases absorb 0 numeral.whole with ⟨n, tail⟩
    dsimp only at hwhole hnumber
    split at hnumber
    · exact natAbs_lt_of_integer? hwhole hnumber
    · obtain ⟨x, -, hx⟩ := Option.map_eq_some_iff.1 hnumber
      cases hx
  · cases h

end Numeral

/-! ## Tokens -/

namespace Token

/-- Every piece of a string has taken a character of the text at least. -/
theorem length_scanPieces_le (text : List Char) : (scanPieces text).1.length ≤ text.length := by
  fun_induction scanPieces text with
  | case1 | case2 | case3 | case5 | case6 | case8 | case9 => simp
  | case4 _ a b c d rest n hn ih =>
    simp only [addPiece, List.length_cons] at ih ⊢
    omega
  | case7 _ e rest he c hc ih =>
    simp only [addPiece, List.length_cons] at ih ⊢
    omega
  | case10 c rest h1 h2 h3 ih =>
    simp only [addPiece, List.length_cons] at ih ⊢
    omega

/-- Every character of a string is joined from one piece, or from two if they are a pair of
surrogates. -/
theorem length_le_of_joinPieces {unpaired : TextError} {pieces : List Piece} {chars : List Char}
    (h : joinPieces unpaired pieces = .ok chars) : chars.length ≤ pieces.length := by
  fun_induction joinPieces unpaired pieces generalizing chars with
  | case1 =>
    cases h
    exact Nat.le_refl 0
  | case2 c rest ih =>
    obtain ⟨others, hothers, rfl⟩ := map_eq_ok_iff.1 h
    exact Nat.succ_le_succ (ih hothers)
  | case6 n hn hleading m rest hm ih =>
    obtain ⟨others, hothers, rfl⟩ := map_eq_ok_iff.1 h
    exact Nat.le_succ_of_le (Nat.succ_le_succ (ih hothers))
  | case8 n rest hn hleading ih =>
    obtain ⟨others, hothers, rfl⟩ := map_eq_ok_iff.1 h
    exact Nat.succ_le_succ (ih hothers)
  | case3 | case4 | case5 | case7 => cases h

/-- As a value, the token holds no more than that. -/
def Within (n : Nat) (token : Token) : Prop :=
  ∀ value, Source.opening token = .value value → value.Within n

theorem within_broken (n : Nat) (fault : Fault) : (broken fault).Within n := by
  rintro value ⟨⟩

/-- A string that breaks off is no value. -/
theorem within_brokenPieces (n : Nat) (pieces : List Piece) (unpaired skipping : TextError) :
    (brokenPieces pieces unpaired skipping).Within n := by
  unfold brokenPieces
  split <;> rintro value ⟨⟩

/-- A string has no more characters than there are behind its quotation mark. -/
theorem within_scanString (text : List Char) : (scanString text).1.Within text.length := by
  unfold scanString
  split
  next pieces ending hpieces =>
    have hlength := length_scanPieces_le text
    rw [hpieces] at hlength
    split
    · rintro value ⟨⟩
      refine .string fun joined hjoined => ?_
      obtain ⟨chars, hchars, rfl⟩ := map_eq_ok_iff.1 hjoined
      rw [String.length_ofList]
      exact Nat.le_trans (length_le_of_joinPieces hchars) hlength
    all_goals exact within_brokenPieces _ _ _ _

theorem within_scanWord {n : Nat} {token : Token} (htoken : token.Within n)
    (letters text : List Char) : (scanWord token letters text).1.Within n := by
  induction letters generalizing text with
  | nil => exact htoken
  | cons letter letters ih =>
    cases text with
    | nil => exact within_broken n _
    | cons c text =>
      rw [scanWord]
      split
      · exact ih text
      · exact within_broken n _

/-- A number is an integer of 64 bits, if it is an integer. -/
theorem within_scanNumber (n : Nat) (text : List Char) : (scanNumber text).1.Within n := by
  unfold scanNumber
  split
  · rintro value ⟨⟩
    exact .number fun i hi => Numeral.natAbs_lt_of_value hi
  · exact within_broken n _

/-- The token that begins with a character holds no more than the text behind it. -/
theorem within_scan (c : Char) (rest : List Char) : (scan c rest).1.Within rest.length := by
  have hnull : Within rest.length null := by
    rintro value ⟨⟩
    exact .null
  have hbool : ∀ b, Within rest.length (bool b) := by
    rintro b value ⟨⟩
    exact .bool b
  unfold scan
  repeat' split
  all_goals first
    | exact within_scanString rest
    | exact within_scanWord hnull _ rest
    | exact within_scanWord (hbool _) _ rest
    | exact within_scanNumber _ _
    | exact within_broken _ _
    | rintro value ⟨⟩

theorem Within.mono {n m : Nat} {token : Token} (h : token.Within n) (hle : n ≤ m) :
    token.Within m :=
  fun value hvalue => (h value hvalue).mono hle

/-- There are no more tokens than characters. -/
theorem length_list_le (text : List Char) : (list text).length ≤ text.length := by
  fun_induction list text with
  | case1 => exact Nat.le_refl 0
  | case2 c rest hspace ih => exact Nat.le_succ_of_le ih
  | case3 c rest hspace h ih => exact Nat.succ_le_succ (Nat.le_trans ih h)

/-- No token of a text holds more than the text. -/
theorem within_list (text : List Char) : ∀ token ∈ list text, token.Within text.length := by
  fun_induction list text with
  | case1 => exact List.forall_mem_nil _
  | case2 c rest hspace ih => exact fun token hm => (ih token hm).mono (Nat.le_succ _)
  | case3 c rest hspace h ih =>
    refine List.forall_mem_cons.2 ⟨(within_scan c rest).mono (Nat.le_succ _), fun token hm => ?_⟩
    exact (ih token hm).mono (Nat.le_succ_of_le h)

end Token

/-! ## Open containers -/

namespace Source

variable {n room left : Nat} {frames : List Frame} {token : Token}

/-- The parts of an open container hold no more than that, and an array has room for so many more
items. -/
def Frame.Within (n room : Nat) : Frame → Prop
  | .array items => items.length + room ≤ n ∧ ∀ item ∈ items, item.Within n
  | .object members => ∀ member ∈ members, member.2.Within n
  | .member _ members => ∀ member ∈ members, member.2.Within n

/-- An array that has room for some items has room for fewer. -/
theorem Frame.Within.mono {frame : Frame} {more : Nat} (h : frame.Within n more)
    (hle : room ≤ more) : frame.Within n room := by
  cases frame with
  | array items => exact ⟨Nat.le_trans (Nat.add_le_add_left hle _) h.1, h.2⟩
  | object members | member name members => exact h

theorem forall_frame_mono {more : Nat} (h : ∀ frame ∈ frames, frame.Within n more)
    (hle : room ≤ more) : ∀ frame ∈ frames, frame.Within n room :=
  fun frame hm => (h frame hm).mono hle

/-- A container that is too deep holds what it held. -/
theorem Within.close {container : Source} (h : container.Within n) (frames : List Frame) :
    (close container frames).Within n := by
  unfold Source.close
  split
  · exact h
  · exact .deep h

/-- While an array is open, its items are kept last first. -/
theorem within_array_reverse {items : List Source} (fault : Option Fault) (h : items.length ≤ n)
    (hitems : ∀ item ∈ items, item.Within n) : (array items.reverse fault).Within n :=
  .array fault (by rwa [List.length_reverse]) fun item hm => hitems item (List.mem_reverse.1 hm)

theorem within_object_reverse {members : List (Except TextError String × Source)}
    (fault : Option Fault) (hmembers : ∀ member ∈ members, member.2.Within n) :
    (object members.reverse fault).Within n :=
  .object fault fun member hm => hmembers member (List.mem_reverse.1 hm)

/-! ## The end of the text -/

/-- Where a text breaks off, every open array takes what was open in it as one more item, for which
it has room. -/
theorem within_breakOff {part : Source} (hpart : part.Within n)
    (h : ∀ frame ∈ frames, frame.Within n 1) : (breakOff part frames).Within n := by
  induction frames generalizing part with
  | nil => exact hpart
  | cons frame frames ih =>
    obtain ⟨hframe, hframes⟩ := List.forall_mem_cons.1 h
    cases frame with
    | array items =>
      refine ih (.close ?_ frames) hframes
      exact within_array_reverse none hframe.1 (List.forall_mem_cons.2 ⟨hpart, hframe.2⟩)
    | object members => exact ih (.close (within_object_reverse none hframe) frames) hframes
    | member name members =>
      refine ih (.close ?_ frames) hframes
      exact within_object_reverse none (List.forall_mem_cons.2 ⟨hpart, hframe⟩)

/-- Where a text breaks off between two parts, the innermost array takes no item more. -/
theorem within_breakOpen (fault : Fault) (h : ∀ frame ∈ frames, frame.Within n 1) :
    (breakOpen fault frames).Within n := by
  cases frames with
  | nil => exact .broken fault
  | cons frame frames =>
    obtain ⟨hframe, hframes⟩ := List.forall_mem_cons.1 h
    cases frame with
    | array items =>
      refine within_breakOff (.close ?_ frames) hframes
      exact within_array_reverse (some fault) (Nat.le_of_succ_le hframe.1) hframe.2
    | object members =>
      exact within_breakOff (.close (within_object_reverse (some fault) hframe) frames) hframes
    | member name members =>
      refine within_breakOff (.close ?_ frames) hframes
      exact within_object_reverse none (List.forall_mem_cons.2 ⟨.broken fault, hframe⟩)

/-! ## One token -/

/-- A value that waits to be put into the innermost open container takes room there. -/
def Place.pending : Place → Nat
  | .after _ => 1
  | _ => 0

/-- What has been read holds no more than that, and there is room for what the tokens that are left
can bring. -/
structure Fits (n : Nat) (place : Place) (frames : List Frame) (left : Nat) : Prop where
  within_value : ∀ value, place = .after value → value.Within n
  within_frames : ∀ frame ∈ frames, frame.Within n (place.pending + left + 1)
  left_le : place.pending + left ≤ n

/-- What comes of a token holds no more either. -/
def Step.Fits (n left : Nat) : Step → Prop
  | .goOn place frames => Source.Fits n place frames left
  | .stop source _ => source.Within n

/-- A value that has been read waits for the next token, and the innermost array keeps room for it.
-/
theorem fits_after {value : Source} (hvalue : value.Within n)
    (hframes : ∀ frame ∈ frames, frame.Within n (left + 2)) (hleft : left + 1 ≤ n) :
    (Step.goOn (.after value) frames).Fits n left where
  within_value := by
    rintro _ ⟨⟩
    exact hvalue
  within_frames := forall_frame_mono hframes (by rw [Place.pending]; omega)
  left_le := by rw [Place.pending]; omega

/-- At any other place nothing waits, so there has to be room for the tokens that are left alone. -/
theorem fits_goOn {place : Place} (hplace : place.pending = 0)
    (hframes : ∀ frame ∈ frames, frame.Within n (left + 1)) (hleft : left ≤ n) :
    (Step.goOn place frames).Fits n left where
  within_value := by
    rintro value rfl
    cases hplace
  within_frames := forall_frame_mono hframes (by omega)
  left_le := by omega

theorem fits_stop {source : Source} (h : source.Within n) (followed : Bool) :
    (Step.stop source followed).Fits n left := h

section Step

variable (hframes : ∀ frame ∈ frames, frame.Within n (left + 2)) (hleft : left + 1 ≤ n)

include hframes hleft

/-- Where a value is expected, a token is one, opens a container, or breaks the text off. -/
theorem fits_stepValue (htoken : token.Within n) : (stepValue frames token).Fits n left := by
  have hinner : ∀ frame ∈ frames, frame.Within n (left + 1) := forall_frame_mono hframes (by omega)
  unfold stepValue
  split
  · next value hvalue => exact fits_after (htoken value hvalue) hframes hleft
  · next frame place hframe =>
    -- The container has taken a token, so it has room for all that are left.
    cases token <;> cases hframe
    · refine fits_goOn rfl (List.forall_mem_cons.2 ⟨⟨?_, List.forall_mem_nil _⟩, hinner⟩)
        (by omega)
      rw [List.length_nil]
      omega
    · exact fits_goOn rfl (List.forall_mem_cons.2 ⟨List.forall_mem_nil _, hinner⟩) (by omega)
  · exact within_breakOff (.broken _) (forall_frame_mono hframes (by omega))

theorem fits_closeArray {items : List Source} (hlength : items.length ≤ n)
    (hitems : ∀ item ∈ items, item.Within n) : (closeArray items frames).Fits n left :=
  fits_after (.close (within_array_reverse none hlength hitems) frames) hframes hleft

theorem fits_closeObject {members : List (Except TextError String × Source)}
    (hmembers : ∀ member ∈ members, member.2.Within n) :
    (closeObject members frames).Fits n left :=
  fits_after (.close (within_object_reverse none hmembers) frames) hframes hleft

/-- After a value the container goes on or ends, or else the text breaks off. -/
theorem fits_stepAfter (token : Token) : (stepAfter token frames).Fits n left := by
  have hopen : ∀ fault, (breakOpen fault frames).Within n := fun fault =>
    within_breakOpen fault (forall_frame_mono hframes (by omega))
  have hinner : ∀ frame ∈ frames, frame.Within n (left + 1) := forall_frame_mono hframes (by omega)
  unfold stepAfter
  split
  · next items outer =>
    obtain ⟨hframe, houter⟩ := List.forall_mem_cons.1 hframes
    split
    · exact fits_goOn rfl hinner (by omega)
    · exact fits_closeArray houter hleft (Nat.le_of_add_right_le hframe.1) hframe.2
    · exact hopen _
  · next members outer =>
    obtain ⟨hframe, houter⟩ := List.forall_mem_cons.1 hframes
    split
    · exact fits_goOn rfl hinner (by omega)
    · exact fits_closeObject houter hleft hframe
    · exact hopen _
  · exact hopen _

/-- Where a name is expected, a string begins a member. -/
theorem fits_stepName {atEnd : Step} (hatEnd : atEnd.Fits n left) (token : Token) :
    (stepName atEnd frames token).Fits n left := by
  have hopen : ∀ fault, (breakOpen fault frames).Within n := fun fault =>
    within_breakOpen fault (forall_frame_mono hframes (by omega))
  unfold stepName
  split
  · next name members outer =>
    obtain ⟨hframe, houter⟩ := List.forall_mem_cons.1 hframes
    refine fits_goOn rfl (List.forall_mem_cons.2 ⟨hframe, ?_⟩) (by omega)
    exact forall_frame_mono houter (by omega)
  · exact hatEnd
  · exact hopen _
  · exact hopen _

end Step

/-- A value that is put into the innermost open container takes the room that it was promised. -/
theorem within_putValue {value : Source} (hvalue : value.Within n)
    (hframes : ∀ frame ∈ frames, frame.Within n (room + 1)) :
    ∀ frame ∈ putValue value frames, frame.Within n room := by
  unfold putValue
  split
  · next items outer =>
    obtain ⟨⟨hlength, hitems⟩, houter⟩ := List.forall_mem_cons.1 hframes
    refine List.forall_mem_cons.2 ⟨⟨?_, List.forall_mem_cons.2 ⟨hvalue, hitems⟩⟩,
      forall_frame_mono houter (by omega)⟩
    rw [List.length_cons]
    omega
  · next name members outer =>
    obtain ⟨hmembers, houter⟩ := List.forall_mem_cons.1 hframes
    exact List.forall_mem_cons.2
      ⟨List.forall_mem_cons.2 ⟨hvalue, hmembers⟩, forall_frame_mono houter (by omega)⟩
  · exact forall_frame_mono hframes (by omega)

/-- What comes of a token at a place holds no more than the text, if that is so before it. -/
theorem fits_step {place : Place} (h : Fits n place frames (left + 1)) (htoken : token.Within n) :
    (step place frames token).Fits n left := by
  obtain ⟨hvalue, hframes, hleft⟩ := h
  have hframes' : ∀ frame ∈ frames, frame.Within n (left + 2) :=
    forall_frame_mono hframes (by omega)
  have hleft' : left + 1 ≤ n := by omega
  have hopen : ∀ fault, (breakOpen fault frames).Within n := fun fault =>
    within_breakOpen fault (forall_frame_mono hframes (by omega))
  unfold step
  split
  · exact hvalue _ rfl
  · next value _ =>
    refine fits_stepAfter (within_putValue (hvalue value rfl) ?_) hleft' token
    exact forall_frame_mono hframes (by rw [Place.pending]; omega)
  · next items outer =>
    obtain ⟨hframe, houter⟩ := List.forall_mem_cons.1 hframes'
    split
    · exact fits_closeArray houter hleft' (Nat.le_of_add_right_le hframe.1) hframe.2
    · exact fits_stepValue hframes' hleft' htoken
  · split
    · exact hopen _
    · exact fits_stepValue hframes' hleft' htoken
  · next members outer =>
    obtain ⟨hframe, houter⟩ := List.forall_mem_cons.1 hframes'
    exact fits_stepName hframes' hleft' (fits_closeObject houter hleft' hframe) token
  · exact fits_stepName hframes' hleft' (fits_stop (hopen _) false) token
  · split
    · exact fits_goOn rfl (forall_frame_mono hframes (by omega)) (by omega)
    · exact hopen _
  · exact fits_stepValue hframes' hleft' htoken

/-- At the end of the text no token is left, and what is open breaks off. -/
theorem within_stepEnd {place : Place} (h : Fits n place frames 0) :
    (stepEnd place frames).Within n := by
  obtain ⟨hvalue, hframes, -⟩ := h
  unfold stepEnd
  split
  · exact hvalue _ rfl
  · next value _ => exact within_breakOpen _ (within_putValue (hvalue value rfl) hframes)
  · exact within_breakOpen _ (forall_frame_mono hframes (by omega))

/-! ## The whole text -/

/-- From a place where everything fits, a run comes to a source that holds no more. -/
theorem within_run {tokens : List Token} : ∀ {place : Place} {frames : List Frame},
    (∀ token ∈ tokens, token.Within n) → Fits n place frames tokens.length →
      (run place frames tokens).1.Within n := by
  induction tokens with
  | nil => exact fun _ h => within_stepEnd h
  | cons token rest ih =>
    intro place frames htokens h
    obtain ⟨htoken, hrest⟩ := List.forall_mem_cons.1 htokens
    have hstep := fits_step h htoken
    rw [run]
    split
    · next place' frames' hgoOn =>
      rw [hgoOn] at hstep
      exact ih hrest hstep
    · next source followed hstop =>
      rw [hstop] at hstep
      exact hstep

/-- The source of a text holds no more than there is in the text. -/
theorem within_ofText (text : String) : (ofText text).1.Within text.length := by
  have htokens := Token.within_list text.toList
  have hlength := Token.length_list_le text.toList
  rw [String.length_toList] at htokens hlength
  refine within_run htokens ⟨?_, List.forall_mem_nil _, ?_⟩
  · rintro value ⟨⟩
  · change 0 + _ ≤ _
    rwa [Nat.zero_add]

end Source

end NotionProject
