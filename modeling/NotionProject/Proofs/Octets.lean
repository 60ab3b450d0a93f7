import NotionProject.Text.Utf8
import NotionProject.Text.Ranges
import Mathlib.Data.List.Basic

/-!
# The octets of a text

A character takes one octet in ASCII and four at most, and so is the number of octets of a text
bounded by that of its characters (`utf8ByteSize_ofList_of_ascii`, `utf8ByteSize_ofList_le`).

The octets of a text are read as that text (`decodeOctets_utf8Octets`). This is shown for one
character with any octets behind it (`Utf8.decodeFrom_utf8EncodeChar`), by the number of octets
that it takes: the first one says how many are to come, and within which bounds the second one
lies; no character is outside these bounds, as it is neither overlong nor a surrogate.
-/

namespace NotionProject

/-! ## How many there are -/

theorem utf8ByteSize_ofList_cons (c : Char) (text : List Char) :
    (String.ofList (c :: text)).utf8ByteSize = c.utf8Size + (String.ofList text).utf8ByteSize := by
  rw [String.ofList_cons, String.utf8ByteSize_append, String.utf8ByteSize_singleton]

/-- In ASCII a text has as many octets as characters. -/
theorem utf8ByteSize_ofList_of_ascii {text : List Char} (h : ∀ c ∈ text, c.toNat < 128) :
    (String.ofList text).utf8ByteSize = text.length := by
  induction text with
  | nil => rfl
  | cons c text ih =>
    obtain ⟨hc, htext⟩ := List.forall_mem_cons.1 h
    have hsize : c.utf8Size = 1 :=
      char_of_forall_fin (n := 128) (p := fun c => c.utf8Size = 1) (by decide) hc
    rw [utf8ByteSize_ofList_cons, hsize, ih htext, List.length_cons, Nat.add_comm]

/-- No text has more than four octets for each character. -/
theorem utf8ByteSize_ofList_le (text : List Char) :
    (String.ofList text).utf8ByteSize ≤ 4 * text.length := by
  induction text with
  | nil => exact Nat.le_refl 0
  | cons c text ih =>
    have hsize := c.utf8Size_le_four
    rw [utf8ByteSize_ofList_cons, List.length_cons]
    omega

/-! ## Reading them -/

namespace Utf8

variable {octet : Nat} (rest : List UInt8)

theorem decodeFrom_cons (pending : Option Unfinished) (h : octet < 256) :
    decodeFrom pending (UInt8.ofNat octet :: rest) =
      (step pending octet).1 ++ decodeFrom (step pending octet).2 rest := by
  have hoctet : (UInt8.ofNat octet).toNat = octet := by
    rw [UInt8.toNat_ofNat', Nat.mod_eq_of_lt h]
  rw [decodeFrom, hoctet]

/-- The last octet of a character completes it. -/
theorem decodeFrom_last {value low high : Nat} (hlow : low ≤ octet) (hhigh : octet ≤ high)
    (h : octet < 256) : decodeFrom (some ⟨value, 0, low, high⟩) (UInt8.ofNat octet :: rest) =
      Char.ofNat (value * 64 + (octet - 0x80)) :: decodeFrom none rest := by
  rw [decodeFrom_cons rest _ h]
  simp [step, hlow, hhigh]

/-- An octet between the first and the last one adds to the value. -/
theorem decodeFrom_next {value more low high : Nat} (hlow : low ≤ octet) (hhigh : octet ≤ high)
    (h : octet < 256) :
    decodeFrom (some ⟨value, more + 1, low, high⟩) (UInt8.ofNat octet :: rest) =
      decodeFrom (some ⟨value * 64 + (octet - 0x80), more, 0x80, 0xBF⟩) rest := by
  rw [decodeFrom_cons rest _ h]
  simp [step, hlow, hhigh]

theorem decodeFrom_one (h : octet < 0x80) :
    decodeFrom none (UInt8.ofNat octet :: rest) = Char.ofNat octet :: decodeFrom none rest := by
  rw [decodeFrom_cons rest _ (by omega)]
  simp [step, start, h]

theorem decodeFrom_two (hlow : 0xC2 ≤ octet) (hhigh : octet < 0xE0) :
    decodeFrom none (UInt8.ofNat octet :: rest) =
      decodeFrom (some ⟨octet - 0xC0, 0, 0x80, 0xBF⟩) rest := by
  have hascii : ¬octet < 0x80 := by omega
  have hstray : ¬octet < 0xC2 := by omega
  rw [decodeFrom_cons rest _ (by omega)]
  simp [step, start, hascii, hstray, hhigh]

/-- The first of three octets excludes overlong forms and surrogates for the second one. -/
theorem decodeFrom_three (hlow : 0xE0 ≤ octet) (hhigh : octet < 0xF0) :
    decodeFrom none (UInt8.ofNat octet :: rest) =
      decodeFrom (some ⟨octet - 0xE0, 1, if octet = 0xE0 then 0xA0 else 0x80,
        if octet = 0xED then 0x9F else 0xBF⟩) rest := by
  have hascii : ¬octet < 0x80 := by omega
  have hstray : ¬octet < 0xC2 := by omega
  have htwo : ¬octet < 0xE0 := by omega
  rw [decodeFrom_cons rest _ (by omega)]
  simp only [step, start, hascii, hstray, htwo, hhigh, if_false, if_true]
  by_cases hfirst : octet = 0xE0
  · simp [hfirst]
  by_cases hsurrogate : octet = 0xED <;> simp [hfirst, hsurrogate]

/-- The first of four octets excludes overlong forms and what is beyond the last code point. -/
theorem decodeFrom_four (hlow : 0xF0 ≤ octet) (hhigh : octet ≤ 0xF4) :
    decodeFrom none (UInt8.ofNat octet :: rest) =
      decodeFrom (some ⟨octet - 0xF0, 2, if octet = 0xF0 then 0x90 else 0x80,
        if octet = 0xF4 then 0x8F else 0xBF⟩) rest := by
  have hascii : ¬octet < 0x80 := by omega
  have hstray : ¬octet < 0xC2 := by omega
  have htwo : ¬octet < 0xE0 := by omega
  have hthree : ¬octet < 0xF0 := by omega
  have hne : octet ≠ 0xE0 ∧ octet ≠ 0xED := by omega
  rw [decodeFrom_cons rest _ (by omega)]
  simp only [step, start, hascii, hstray, htwo, hthree, hne, if_false]
  by_cases hfirst : octet = 0xF0
  · simp [hfirst]
  by_cases hlast : octet = 0xF4
  · simp [hlast]
  · have hbetween : octet < 0xF4 := by omega
    simp [hfirst, hlast, hbetween]

/-- The octets of a character are read as the character, whatever comes after them. -/
theorem decodeFrom_utf8EncodeChar (c : Char) :
    decodeFrom none (String.utf8EncodeChar c ++ rest) = c :: decodeFrom none rest := by
  have hvalid : c.val.toNat < 0xD800 ∨ 0xDFFF < c.val.toNat ∧ c.val.toNat < 0x110000 := c.valid
  have hself : Char.ofNat c.val.toNat = c := c.ofNat_toNat
  unfold String.utf8EncodeChar
  generalize c.val.toNat = v at hvalid hself ⊢
  dsimp only
  by_cases hone : v ≤ 0x7F
  · rw [if_pos hone, List.singleton_append, decodeFrom_one rest (by omega), hself]
  rw [if_neg hone]
  by_cases htwo : v ≤ 0x7FF
  · rw [if_pos htwo, List.cons_append, List.singleton_append,
      decodeFrom_two _ (by omega) (by omega), decodeFrom_last rest (by omega) (by omega) (by omega)]
    have hvalue : (v / 64 % 32 + 192 - 0xC0) * 64 + (v % 64 + 128 - 0x80) = v := by omega
    rw [hvalue, hself]
  rw [if_neg htwo]
  by_cases hthree : v ≤ 0xFFFF
  · rw [if_pos hthree, List.cons_append, List.cons_append, List.singleton_append,
      decodeFrom_three _ (by omega) (by omega),
      decodeFrom_next _ (by split <;> omega) (by split <;> omega) (by omega),
      decodeFrom_last rest (by omega) (by omega) (by omega)]
    have hvalue : ((v / 4096 % 16 + 224 - 0xE0) * 64 + (v / 64 % 64 + 128 - 0x80)) * 64 +
        (v % 64 + 128 - 0x80) = v := by omega
    rw [hvalue, hself]
  · rw [if_neg hthree, List.cons_append, List.cons_append, List.cons_append, List.singleton_append,
      decodeFrom_four _ (by omega) (by omega),
      decodeFrom_next _ (by split <;> omega) (by split <;> omega) (by omega),
      decodeFrom_next _ (by omega) (by omega) (by omega),
      decodeFrom_last rest (by omega) (by omega) (by omega)]
    have hvalue : (((v / 262144 % 8 + 240 - 0xF0) * 64 + (v / 4096 % 64 + 128 - 0x80)) * 64 +
        (v / 64 % 64 + 128 - 0x80)) * 64 + (v % 64 + 128 - 0x80) = v := by omega
    rw [hvalue, hself]

theorem decodeFrom_utf8Octets (text : List Char) : decodeFrom none (utf8Octets text) = text := by
  induction text with
  | nil => rfl
  | cons c text ih =>
    rw [utf8Octets, List.flatMap_cons, decodeFrom_utf8EncodeChar, ← utf8Octets, ih]

end Utf8

/-- The octets of a text are read as the text. -/
theorem decodeOctets_utf8Octets (text : List Char) :
    decodeOctets (utf8Octets text) = String.ofList text := by
  rw [decodeOctets, Utf8.decodeFrom_utf8Octets]

end NotionProject
