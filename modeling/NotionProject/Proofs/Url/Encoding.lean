import NotionProject.Url.Host
import NotionProject.Proofs.Octets

/-!
# Encoded text

A text is encoded for a part of a URL if all its characters may stand for themselves there
(`Percent.IsEncoded`). Encoding makes a text so (`isEncoded_encode`) and leaves such a text as it
is (`encode_eq_self`). A text without percent signs stands for itself (`toList_decode_of_notMem`).
-/

namespace NotionProject

open Domain (isAscii)

/-- What holds of each character of a text is decided along the text, and not along all
characters. -/
instance (priority := 2000) Text.decidableForallMem {p : Char → Prop} [DecidablePred p]
    (text : List Char) : Decidable (∀ c ∈ text, p c) :=
  List.decidableBAll p text

namespace Percent

/-- All characters of the text are in ASCII, and none of them is reserved. -/
def IsEncoded (reserved : Char → Bool) (text : List Char) : Prop :=
  ∀ c ∈ text, isAscii c = true ∧ reserved c = false

/-- The characters of encoded octets. -/
def octetChars : List Char :=
  "%0123456789ABCDEF".toList

variable {reserved : Char → Bool} {text : List Char}

theorem upperHexDigit_mem {n : Nat} (h : n < 16) : upperHexDigit n ∈ octetChars := by
  have key : ∀ i : Fin 16, upperHexDigit i ∈ octetChars := by decide
  exact key ⟨n, h⟩

theorem mem_octetChars_of_mem_char {c d : Char} (h : d ∈ char c) : d ∈ octetChars := by
  obtain ⟨b, -, hd⟩ := List.mem_flatMap.1 h
  have hb := b.toNat_lt
  simp only [octet, List.mem_cons, List.not_mem_nil, or_false] at hd
  rcases hd with rfl | rfl | rfl
  · decide
  · exact upperHexDigit_mem (by omega)
  · exact upperHexDigit_mem (by omega)

theorem mem_of_mem_encode {c : Char} (h : c ∈ encode reserved text) :
    c ∈ octetChars ∨ c ∈ text := by
  obtain ⟨d, hd, hc⟩ := List.mem_flatMap.1 h
  split at hc
  · exact Or.inl (mem_octetChars_of_mem_char hc)
  · exact Or.inr (List.mem_singleton.1 hc ▸ hd)

/-- No part reserves the characters of encoded octets, so that encoding makes a text encoded. -/
theorem isEncoded_encode (h : ∀ c ∈ octetChars, reserved c = false) (text : List Char) :
    IsEncoded reserved (encode reserved text) := by
  have hascii : ∀ c ∈ octetChars, isAscii c = true := by decide
  intro c hc
  obtain ⟨d, -, hd⟩ := List.mem_flatMap.1 hc
  split at hd
  · have hm := mem_octetChars_of_mem_char hd
    exact ⟨hascii c hm, h c hm⟩
  · next hn =>
    obtain rfl := List.mem_singleton.1 hd
    simpa [isAscii] using hn

/-- An encoded text stays as it is. -/
theorem encode_eq_self (h : IsEncoded reserved text) : encode reserved text = text := by
  induction text with
  | nil => rfl
  | cons c rest ih =>
    obtain ⟨hc, hr⟩ := h c List.mem_cons_self
    rw [encode, List.flatMap_cons, ← encode, ih fun d hd => h d (List.mem_cons_of_mem _ hd)]
    simp only [isAscii, decide_eq_true_eq] at hc
    simp [hr, Nat.not_le.2 hc]

/-- Nothing but the empty text is encoded as it. -/
theorem encode_ne_nil (h : text ≠ []) : encode reserved text ≠ [] := by
  obtain ⟨c, rest, rfl⟩ := List.exists_cons_of_ne_nil h
  rw [encode, List.flatMap_cons]
  split
  · obtain ⟨b, bs, hb⟩ := List.exists_cons_of_ne_nil (@String.utf8EncodeChar_ne_nil c)
    simp [char, hb, octet]
  · simp

/-- A percent sign is all that decoding minds. -/
theorem decode_of_notMem (h : '%' ∉ text) : decode text = utf8Octets text := by
  induction text with
  | nil => rfl
  | cons c rest ih =>
    rw [List.mem_cons, not_or] at h
    rw [decode, ih h.2]
    · rfl
    · rintro _ _ _ rfl
      exact absurd rfl h.1

/-- A text without percent signs stands for itself. -/
theorem toList_decode_of_notMem (h : '%' ∉ text) : (decodeOctets (decode text)).toList = text := by
  rw [decode_of_notMem h, decodeOctets_utf8Octets, String.toList_ofList]

end Percent

end NotionProject
