import NotionProject.Url.Host
import NotionProject.Proofs.Url.DomainName
import NotionProject.Proofs.Url.Encoding
import Mathlib.Algebra.Group.Nat.Defs
import Mathlib.Data.List.Induction

/-!
# Addresses read back

The text of an address is read as the address: four decimal numbers (`ipv4?_ipv4Chars`), or
pieces in base sixteen with the longest run of zeros left out (`ipv6?_ipv6Chars`). A number is
read digit by digit as it is written (`number_toDigits`), and a double colon stands only where
the run was left out (`splitDoubleColon_colonSeparated`).
-/

namespace NotionProject

namespace Host

/-! ## Numbers -/

/-- One digit more makes the number larger by the base, and adds its value. -/
theorem number_concat (base : Nat) (digits : List Char) (c : Char) :
    number base (digits ++ [c]) = number base digits * base + Percent.hexValue c := by
  simp [number]

theorem hexValue_digitChar {d : Nat} (h : d < 16) : Percent.hexValue (Nat.digitChar d) = d := by
  have key : ∀ i : Fin 16, Percent.hexValue (Nat.digitChar i) = i := by decide
  exact key ⟨d, h⟩

/-- A number is read as it is written, in any base up to sixteen. -/
theorem number_toDigits {base : Nat} (hlo : 1 < base) (hhi : base ≤ 16) (n : Nat) :
    number base (Nat.toDigits base n) = n := by
  induction n using Nat.strongRecOn with
  | ind n ih =>
    by_cases hn : n < base
    · rw [Nat.toDigits_of_lt_base hn]
      simpa [number] using hexValue_digitChar (by omega)
    · have hlt : n / base < n := Nat.div_lt_self (by omega) hlo
      have hmod : n % base < base := Nat.mod_lt n (by omega)
      rw [Nat.toDigits_of_base_le hlo (by omega), number_concat, ih _ hlt,
        hexValue_digitChar (by omega), Nat.div_add_mod']

/-- What holds of the digits of a base holds of all the digits of a number. -/
theorem forall_mem_toDigits {base : Nat} (hlo : 1 < base) {p : Char → Prop}
    (h : ∀ d : Fin base, p (Nat.digitChar d)) (n : Nat) : ∀ c ∈ Nat.toDigits base n, p c := by
  induction n using Nat.strongRecOn with
  | ind n ih =>
    by_cases hn : n < base
    · rw [Nat.toDigits_of_lt_base hn]
      exact List.forall_mem_singleton.2 (h ⟨n, hn⟩)
    · rw [Nat.toDigits_of_base_le hlo (by omega)]
      refine List.forall_mem_append.2 ⟨ih _ (Nat.div_lt_self (by omega) hlo), ?_⟩
      exact List.forall_mem_singleton.2 (h ⟨_, Nat.mod_lt n (by omega)⟩)

theorem isHexDigit_of_mem_toDigits {n : Nat} : ∀ c ∈ Nat.toDigits 16 n, isHexDigit c = true :=
  forall_mem_toDigits (by decide) (by decide) n

theorem hexValue_lt {c : Char} (h : isHexDigit c = true) : Percent.hexValue c < 16 :=
  of_isHexDigit (p := fun c => Percent.hexValue c < 16) (by decide) h

/-- A number is less than the power of the base by the number of its digits. -/
theorem number_lt {base : Nat} {digits : List Char}
    (h : ∀ c ∈ digits, Percent.hexValue c < base) : number base digits < base ^ digits.length := by
  induction digits using List.reverseRecOn with
  | nil => simp [number]
  | append_singleton digits c ih =>
    obtain ⟨hd, hc⟩ := List.forall_mem_append.1 h
    have hc := hc c (by simp)
    rw [number_concat, List.length_append, List.length_singleton, Nat.pow_succ]
    calc number base digits * base + Percent.hexValue c
      _ < (number base digits + 1) * base := by rw [Nat.add_one_mul]; omega
      _ ≤ base ^ digits.length * base := Nat.mul_le_mul_right base (ih hd)

/-! ## IPv4 -/

/-- A byte in decimal digits is read back. -/
theorem ipv4Part?_toDigits {n : Nat} (h : n < 256) : ipv4Part? (Nat.toDigits 10 n) = some n := by
  have key : ∀ i : Fin 256, ipv4Part? (Nat.toDigits 10 i) = some i.val := by decide +kernel
  exact key ⟨n, h⟩

/-- The four numbers of an address. -/
def ipv4Bytes (address : Nat) : List Nat :=
  [address / 256 ^ 3 % 256, address / 256 ^ 2 % 256, address / 256 % 256, address % 256]

/-- The text of an address has its four bytes in decimal digits, with dots between them. -/
theorem ipv4Chars_eq (address : Nat) :
    ipv4Chars address = ['.'].intercalate ((ipv4Bytes address).map (Nat.toDigits 10)) := by
  simp [ipv4Chars, ipv4Bytes, List.intercalate]

theorem isDigit_of_mem_toDigits {n : Nat} : ∀ c ∈ Nat.toDigits 10 n, c.isDigit = true :=
  fun _ hc => Nat.isDigit_of_mem_toDigits (by decide) (by decide) hc

/-- The labels of the text of an address are its numbers. -/
theorem labels_ipv4Chars (address : Nat) :
    labels (ipv4Chars address) = (ipv4Bytes address).map (Nat.toDigits 10) := by
  have hdot : ∀ part ∈ (ipv4Bytes address).map (Nat.toDigits 10), '.' ∉ part := by
    intro part hp hdot
    obtain ⟨n, -, rfl⟩ := List.mem_map.1 hp
    exact absurd (isDigit_of_mem_toDigits '.' hdot) (by decide)
  rw [labels, ipv4Chars_eq, Text.splitAt_intercalate (by simp [ipv4Bytes]) hdot]
  simp [ipv4Bytes, Nat.toDigits_ne_nil]

/-- So it is not taken for a name. -/
theorem endsInNumber_ipv4Chars (address : Nat) : endsInNumber (ipv4Chars address) = true := by
  rw [endsInNumber, labels_ipv4Chars]
  have hne : Nat.toDigits 10 (address % 256) ≠ [] := Nat.toDigits_ne_nil
  obtain ⟨c, rest, hd⟩ := List.exists_cons_of_ne_nil hne
  have hall : (c :: rest).all Char.isDigit = true := by
    rw [← hd]
    exact List.all_eq_true.2 isDigit_of_mem_toDigits
  simp [ipv4Bytes, hd, hall]

/-- The text of an address is read as the address. -/
theorem ipv4?_ipv4Chars {address : Nat} (h : address < 256 ^ 4) :
    ipv4? (ipv4Chars address) = some address := by
  have hparts : ((ipv4Bytes address).map (Nat.toDigits 10)).mapM ipv4Part? =
      some (ipv4Bytes address) := by
    rw [mapM_eq_some_iff, List.forall₂_map_left_iff, List.forall₂_same]
    intro n hn
    refine ipv4Part?_toDigits ?_
    simp only [ipv4Bytes, List.mem_cons, List.not_mem_nil, or_false] at hn
    omega
  rw [ipv4?, labels_ipv4Chars, hparts, Option.bind_some]
  simp [ipv4Address?, ipv4Bytes]
  omega

/-- An address that is read has four octets. -/
theorem lt_of_ipv4Address? {numbers : List Nat} {address : Nat}
    (h : ipv4Address? numbers = some address) : address < 256 ^ 4 := by
  unfold ipv4Address? at h
  split at h
  · cases h
  next last firsts _ =>
  split at h
  · cases h
  next hlen =>
  split at h
  · cases h
  next hlast =>
  split at h
  · cases h
  next hbytes =>
  have hfirsts : ∀ n ∈ firsts, n ≤ 255 := by simpa using hbytes
  -- the weights get a name, so that nothing computes with them
  obtain ⟨weight, hw⟩ : ∃ weight : Nat → Nat, weight = fun i => Nat.pow 256 (3 - i) := ⟨_, rfl⟩
  have h : some ((firsts.reverse.zipIdx.map fun p => p.1 * weight p.2).foldl (· + ·) last) =
      some address := by
    rw [hw]
    exact h
  have h0 : weight 0 = 256 ^ 3 := congrFun hw 0
  have h1 : weight 1 = 256 ^ 2 := congrFun hw 1
  have h2 : weight 2 = 256 := congrFun hw 2
  -- the numbers come last first, and the last one takes the place of those missing
  rcases firsts with _ | ⟨a, _ | ⟨b, _ | ⟨c, _ | ⟨d, rest⟩⟩⟩⟩
  · have h : last = address := Option.some.inj h
    have hlast : last < 256 ^ 4 := Nat.lt_of_not_le hlast
    omega
  · have h : last + a * weight 0 = address := Option.some.inj h
    have hlast : last < 256 ^ 3 := Nat.lt_of_not_le hlast
    have ha := hfirsts a (by simp)
    rw [h0] at h
    omega
  · have h : last + b * weight 0 + a * weight 1 = address := Option.some.inj h
    have hlast : last < 256 ^ 2 := Nat.lt_of_not_le hlast
    have ha := hfirsts a (by simp)
    have hb := hfirsts b (by simp)
    rw [h0, h1] at h
    omega
  · have h : last + c * weight 0 + b * weight 1 + a * weight 2 = address := Option.some.inj h
    have hlast : last < 256 := Nat.lt_of_not_le hlast
    have ha := hfirsts a (by simp)
    have hb := hfirsts b (by simp)
    have hc := hfirsts c (by simp)
    rw [h0, h1, h2] at h
    omega
  · simp at hlen

/-! ## IPv6: pieces -/

/-- The texts of pieces. -/
def pieceTexts (pieces : List Nat) : List (List Char) :=
  pieces.map (Nat.toDigits 16)

/-- A piece in hexadecimal digits is read back. -/
theorem ipv6Piece?_toDigits {n : Nat} (h : n < 65536) :
    ipv6Piece? (Nat.toDigits 16 n) = some n := by
  have hlength : (Nat.toDigits 16 n).length ≤ 4 :=
    (Nat.length_toDigits_le_iff (by decide) (by decide)).2 h
  have hall : (Nat.toDigits 16 n).all isHexDigit = true :=
    List.all_eq_true.2 isHexDigit_of_mem_toDigits
  simp [ipv6Piece?, Nat.toDigits_ne_nil, hlength, hall, number_toDigits]

theorem notMem_toDigits {c : Char} (hc : isHexDigit c = false) (n : Nat) :
    c ∉ Nat.toDigits 16 n :=
  fun hm => Bool.noConfusion (hc.symm.trans (isHexDigit_of_mem_toDigits c hm))

theorem notMem_pieceTexts {c : Char} (hc : isHexDigit c = false) {pieces : List Nat} :
    ∀ part ∈ pieceTexts pieces, c ∉ part := by
  intro part hp
  obtain ⟨n, -, rfl⟩ := List.mem_map.1 hp
  exact notMem_toDigits hc n

theorem ne_nil_of_mem_pieceTexts {pieces : List Nat} : ∀ part ∈ pieceTexts pieces, part ≠ [] := by
  intro part hp
  obtain ⟨n, -, rfl⟩ := List.mem_map.1 hp
  exact Nat.toDigits_ne_nil

/-- Pieces are read back one by one. -/
theorem ipv6Pieces?_pieceTexts (dotted : Bool) {pieces : List Nat}
    (h : ∀ n ∈ pieces, n < 65536) : ipv6Pieces? dotted (pieceTexts pieces) = some pieces := by
  match pieces with
  | [] => rfl
  | [n] =>
    have hdot : '.' ∉ Nat.toDigits 16 n := notMem_toDigits (by decide) n
    simp [pieceTexts, ipv6Pieces?, ipv6Piece?_toDigits (h n (by simp)), hdot]
  | n :: next :: rest =>
    obtain ⟨hn, hrest⟩ := List.forall_mem_cons.1 h
    have ih := ipv6Pieces?_pieceTexts dotted hrest
    simp only [pieceTexts, List.map_cons] at ih ⊢
    rw [ipv6Pieces?, ipv6Piece?_toDigits hn, ih]
    · rfl
    · simp

/-- Cut at the colons, the text of pieces is in pieces again. -/
theorem splitAt_colonSeparated {pieces : List Nat} (h : pieces ≠ []) :
    Text.splitAt ':' (colonSeparated pieces) = pieceTexts pieces :=
  Text.splitAt_intercalate (by simpa [pieceTexts] using h) (notMem_pieceTexts (by decide))

theorem colonSeparated_ne_nil {pieces : List Nat} (h : pieces ≠ []) :
    colonSeparated pieces ≠ [] := by
  intro hnil
  have hparts := splitAt_colonSeparated h
  rw [hnil, Text.splitAt] at hparts
  exact ne_nil_of_mem_pieceTexts [] (hparts ▸ List.mem_singleton_self []) rfl

/-- Pieces with colons between them are read as they are written. -/
theorem ipv6Side?_colonSeparated (dotted : Bool) {pieces : List Nat}
    (h : ∀ n ∈ pieces, n < 65536) : ipv6Side? dotted (colonSeparated pieces) = some pieces := by
  unfold ipv6Side?
  cases pieces with
  | nil => rfl
  | cons n rest =>
    rw [if_neg (by simpa using colonSeparated_ne_nil (List.cons_ne_nil n rest)),
      splitAt_colonSeparated (List.cons_ne_nil n rest), ipv6Pieces?_pieceTexts dotted h]

/-! ## IPv6: the double colon -/

/-- Before the first colon no double colon is found. -/
theorem splitDoubleColon_append {part : List Char} (h : ':' ∉ part) (rest : List Char) :
    splitDoubleColon (part ++ rest) =
      (splitDoubleColon rest).map fun found => (part ++ found.1, found.2) := by
  induction part with
  | nil => simp
  | cons c part ih =>
    rw [List.mem_cons, not_or] at h
    rw [List.cons_append, splitDoubleColon, ih h.2, Option.map_map]
    · rfl
    · rintro _ rfl
      exact absurd rfl h.1

theorem splitDoubleColon_colon {c : Char} (h : c ≠ ':') (rest : List Char) :
    splitDoubleColon (':' :: c :: rest) =
      (splitDoubleColon (c :: rest)).map fun found => (':' :: found.1, found.2) := by
  rw [splitDoubleColon]
  rintro _ - heq
  exact h (List.cons.inj heq).1

/-- In parts with colons between them there is no double colon, so that the first one is in what
comes behind them. -/
theorem splitDoubleColon_intercalate : ∀ {parts : List (List Char)},
    (∀ part ∈ parts, ':' ∉ part) → (∀ part ∈ parts, part ≠ []) → ∀ rest : List Char,
      splitDoubleColon ([':'].intercalate parts ++ rest) =
        (splitDoubleColon rest).map fun found => ([':'].intercalate parts ++ found.1, found.2)
  | [], _, _, rest => by simp [List.intercalate]
  | [part], hcolon, _, rest => by
    simpa [List.intercalate] using splitDoubleColon_append (hcolon part (by simp)) rest
  | part :: next :: parts, hcolon, hne, rest => by
    obtain ⟨hpart, hcolon⟩ := List.forall_mem_cons.1 hcolon
    obtain ⟨-, hne⟩ := List.forall_mem_cons.1 hne
    have ih := splitDoubleColon_intercalate hcolon hne rest
    obtain ⟨c, more, rfl⟩ := List.exists_cons_of_ne_nil (hne next (by simp))
    have hc : c ≠ ':' := fun he => hcolon _ List.mem_cons_self (he ▸ List.mem_cons_self)
    rw [List.intercalate_cons_cons_left, List.cons_append] at ih
    rw [List.intercalate_cons_cons, List.intercalate_cons_cons_left, List.append_assoc,
      List.append_assoc, splitDoubleColon_append hpart, List.singleton_append, List.cons_append,
      splitDoubleColon_colon hc, ih, Option.map_map, Option.map_map]
    simp [Function.comp_def]

/-- In pieces with colons between them there is no double colon. -/
theorem splitDoubleColon_colonSeparated (pieces : List Nat) (rest : List Char) :
    splitDoubleColon (colonSeparated pieces ++ rest) =
      (splitDoubleColon rest).map fun found => (colonSeparated pieces ++ found.1, found.2) :=
  splitDoubleColon_intercalate (notMem_pieceTexts (by decide)) ne_nil_of_mem_pieceTexts rest

/-! ## IPv6: the longest run of zeros -/

/-- Where the longest run of zeros is said to be, there are as many zeros. -/
theorem longestZeros_spec (pieces : List Nat) :
    (longestZeros pieces).2 ≤ zerosAtStart (pieces.drop (longestZeros pieces).1) := by
  unfold longestZeros
  generalize List.range pieces.length = places
  have hstart : (0, 0).2 ≤ zerosAtStart (pieces.drop (0, 0).1) := Nat.zero_le _
  generalize (0, 0) = best at hstart
  induction places generalizing best with
  | nil => exact hstart
  | cons i places ih =>
    rw [List.foldl_cons]
    refine ih _ ?_
    dsimp only
    split
    · exact Nat.le_refl _
    · exact hstart

/-- Up to their number, the pieces at the start are zero. -/
theorem take_eq_replicate_of_le_zerosAtStart {pieces : List Nat} {n : Nat}
    (h : n ≤ zerosAtStart pieces) : pieces.take n = List.replicate n 0 := by
  induction pieces generalizing n with
  | nil =>
    obtain rfl : n = 0 := Nat.le_zero.1 h
    rfl
  | cons piece rest ih =>
    cases n with
    | zero => rfl
    | succ n =>
      by_cases hp : piece = 0
      · have hn : n ≤ zerosAtStart rest := by
          simpa [zerosAtStart, List.takeWhile_cons, hp] using h
        rw [List.take_succ_cons, ih hn, hp, List.replicate_succ]
      · simp [zerosAtStart, hp] at h

/-- The longest run of zeros consists of zeros. -/
theorem eq_append_replicate_append {pieces : List Nat} {start length : Nat}
    (h : longestZeros pieces = (start, length)) :
    pieces = pieces.take start ++ List.replicate length 0 ++ pieces.drop (start + length) := by
  have hzeros := take_eq_replicate_of_le_zerosAtStart (longestZeros_spec pieces)
  rw [h] at hzeros
  rw [← hzeros, List.append_assoc, ← List.drop_drop, List.take_append_drop,
    List.take_append_drop]

/-- The text of an address is read as the address. -/
theorem ipv6?_ipv6Chars {pieces : List Nat} (hlength : pieces.length = 8)
    (h : ∀ n ∈ pieces, n < 65536) : ipv6? (ipv6Chars pieces) = some pieces := by
  unfold ipv6Chars
  rcases hrun : longestZeros pieces with ⟨start, length⟩
  have hwhole := eq_append_replicate_append hrun
  dsimp only
  split
  · have hbefore : ∀ n ∈ pieces.take start, n < 65536 := fun n hn =>
      h n (List.mem_of_mem_take hn)
    have hafter : ∀ n ∈ pieces.drop (start + length), n < 65536 := fun n hn =>
      h n (List.mem_of_mem_drop hn)
    have hcount := congrArg List.length hwhole
    simp only [List.length_append, List.length_replicate] at hcount
    have hmissing : 8 - ((pieces.take start).length + (pieces.drop (start + length)).length) =
        length := by omega
    rw [ipv6?, splitDoubleColon_colonSeparated, splitDoubleColon, Option.map_some, List.append_nil]
    simp only [ipv6Side?_colonSeparated _ hbefore, ipv6Side?_colonSeparated _ hafter,
      Option.bind_eq_bind, Option.bind_some, hmissing]
    rw [if_pos (by omega), ← hwhole]
  · have hne : pieces ≠ [] := by
      rintro rfl
      cases hlength
    have hnone := splitDoubleColon_colonSeparated pieces []
    rw [List.append_nil, splitDoubleColon, Option.map_none] at hnone
    simp [ipv6?, hnone, splitAt_colonSeparated hne, ipv6Pieces?_pieceTexts true h, hlength]

/-! ## IPv6: addresses that are read -/

theorem lt_of_ipv6Piece? {part : List Char} {n : Nat} (h : ipv6Piece? part = some n) :
    n < 65536 := by
  unfold ipv6Piece? at h
  split at h
  · next hc =>
    cases h
    simp only [Bool.and_eq_true, decide_eq_true_eq, List.all_eq_true] at hc
    calc number 16 part
      _ < 16 ^ part.length := number_lt fun c hm => hexValue_lt (hc.2 c hm)
      _ ≤ 16 ^ 4 := Nat.pow_le_pow_right (by decide) hc.1.2
  · cases h

theorem lt_of_dottedPart? {part : List Char} {n : Nat} (h : dottedPart? part = some n) :
    n < 256 := by
  unfold dottedPart? at h
  split at h
  · next hc =>
    cases h
    simp only [Bool.and_eq_true, decide_eq_true_eq] at hc
    exact hc.2
  · cases h

theorem lt_of_dottedPieces? {part : List Char} {pieces : List Nat}
    (h : dottedPieces? part = some pieces) : ∀ n ∈ pieces, n < 65536 := by
  unfold dottedPieces? at h
  split at h
  · next a b c d hparts =>
    have hlt : ∀ n ∈ [a, b, c, d], n < 256 := fun n hn =>
      have ⟨_, _, hp⟩ := exists_of_mapM_eq_some hparts n hn
      lt_of_dottedPart? hp
    simp only [List.forall_mem_cons] at hlt
    cases h
    simp only [List.forall_mem_cons]
    exact ⟨by omega, by omega, by simp⟩
  · cases h

/-- Every piece that is read has 16 bits. -/
theorem lt_of_ipv6Pieces? {dotted : Bool} : ∀ {parts : List (List Char)} {pieces : List Nat},
    ipv6Pieces? dotted parts = some pieces → ∀ n ∈ pieces, n < 65536
  | [], pieces, h => by
    cases h
    exact List.forall_mem_nil _
  | [part], pieces, h => by
    rw [ipv6Pieces?] at h
    split at h
    · exact lt_of_dottedPieces? h
    · obtain ⟨n, hn, rfl⟩ := Option.map_eq_some_iff.1 h
      simpa using lt_of_ipv6Piece? hn
  | part :: next :: rest, pieces, h => by
    rw [ipv6Pieces?] at h
    · obtain ⟨n, hn, h⟩ := Option.bind_eq_some_iff.1 h
      obtain ⟨others, ho, h⟩ := Option.bind_eq_some_iff.1 h
      cases h
      exact List.forall_mem_cons.2 ⟨lt_of_ipv6Piece? hn, lt_of_ipv6Pieces? ho⟩
    · simp

theorem lt_of_ipv6Side? {dotted : Bool} {text : List Char} {pieces : List Nat}
    (h : ipv6Side? dotted text = some pieces) : ∀ n ∈ pieces, n < 65536 := by
  unfold ipv6Side? at h
  split at h
  · cases h
    exact List.forall_mem_nil _
  · exact lt_of_ipv6Pieces? h

/-- An address that is read has eight pieces of two octets each. -/
theorem bounds_of_ipv6? {text : List Char} {pieces : List Nat} (h : ipv6? text = some pieces) :
    pieces.length = 8 ∧ ∀ n ∈ pieces, n < 65536 := by
  unfold ipv6? at h
  split at h
  · obtain ⟨all, ha, h⟩ := Option.bind_eq_some_iff.1 h
    split at h
    · next hl =>
      cases h
      exact ⟨hl, lt_of_ipv6Pieces? ha⟩
    · cases h
  · obtain ⟨before, hb, h⟩ := Option.bind_eq_some_iff.1 h
    obtain ⟨after, ha, h⟩ := Option.bind_eq_some_iff.1 h
    dsimp only at h
    split at h
    · cases h
      refine ⟨by simp; omega, ?_⟩
      refine List.forall_mem_append.2 ⟨List.forall_mem_append.2 ⟨lt_of_ipv6Side? hb, ?_⟩,
        lt_of_ipv6Side? ha⟩
      exact fun n hn => (List.eq_of_mem_replicate hn).symm ▸ (by decide)
    · cases h

end Host

end NotionProject
