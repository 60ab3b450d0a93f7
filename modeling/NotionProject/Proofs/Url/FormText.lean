import NotionProject.Url.Form
import NotionProject.Proofs.Octets
import NotionProject.Proofs.Url.Encoding

/-!
# Forms are read back

A form in a query is read as that form (`Form.decode_encode`), whatever text its names and values
hold. A character is written as itself, as a plus sign or as its octets, and each of the three is
read back with any text after it (`Form.decode_encodeChar`). As none of them has an ampersand or an
equals sign, these are found again where they were put.
-/

namespace NotionProject

namespace Percent

variable (rest : List Char)

theorem decode_cons_of_ne {c : Char} (h : c ≠ '%') :
    decode (c :: rest) = String.utf8EncodeChar c ++ decode rest := by
  rw [decode]
  rintro _ _ _ rfl
  exact absurd rfl h

theorem hexValue_upperHexDigit {n : Nat} (h : n < 16) :
    isHexDigit (upperHexDigit n) = true ∧ hexValue (upperHexDigit n) = n := by
  have key : ∀ i : Fin 16,
      isHexDigit (upperHexDigit i) = true ∧ hexValue (upperHexDigit i) = i := by decide
  exact key ⟨n, h⟩

/-- Two digits are read as the octet that they were written for. -/
theorem decode_octet (b : UInt8) : decode (octet b ++ rest) = b :: decode rest := by
  have hb := b.toNat_lt
  obtain ⟨hhigh, hhighValue⟩ := @hexValue_upperHexDigit (b.toNat / 16) (by omega)
  obtain ⟨hlow, hlowValue⟩ := @hexValue_upperHexDigit (b.toNat % 16) (by omega)
  have hvalue : b.toNat / 16 * 16 + b.toNat % 16 = b.toNat := Nat.div_add_mod' _ _
  rw [octet, List.cons_append, List.cons_append, List.singleton_append, decode, hhigh, hlow,
    hhighValue, hlowValue, hvalue, UInt8.ofNat_toNat]
  rfl

/-- A character that is written as its octets is read as them. -/
theorem decode_char (c : Char) :
    decode (char c ++ rest) = String.utf8EncodeChar c ++ decode rest := by
  unfold char
  induction String.utf8EncodeChar c with
  | nil => rfl
  | cons b octets ih =>
    rw [List.flatMap_cons, List.append_assoc, decode_octet, ih, List.cons_append]

end Percent

namespace Form

/-! ## Characters -/

/-- A space for a plus sign. -/
def unplus (c : Char) : Char :=
  if c = '+' then ' ' else c

theorem map_unplus {text : List Char} (h : '+' ∉ text) : text.map unplus = text := by
  refine (List.map_congr_left fun c hc => ?_).trans text.map_id
  exact if_neg fun he : c = '+' => h (he ▸ hc)

/-- A character is read back from what it was written as, whatever comes after that. -/
theorem decode_encodeChar (c : Char) (rest : List Char) :
    Percent.decode ((encodeChar c).map unplus ++ rest) =
      String.utf8EncodeChar c ++ Percent.decode rest := by
  unfold encodeChar
  by_cases hspace : c = ' '
  · rw [if_pos hspace, hspace]
    exact Percent.decode_cons_of_ne rest (by decide)
  rw [if_neg hspace]
  by_cases hkept : isKept c = true
  · have hplus : c ≠ '+' := by
      rintro rfl
      exact absurd hkept (by decide)
    have hpercent : c ≠ '%' := by
      rintro rfl
      exact absurd hkept (by decide)
    rw [if_pos hkept, List.map_singleton, unplus, if_neg hplus, List.singleton_append,
      Percent.decode_cons_of_ne rest hpercent]
  · have hplus : '+' ∉ Percent.char c := fun h =>
      absurd (Percent.mem_octetChars_of_mem_char h) (by decide)
    rw [if_neg hkept, map_unplus hplus, Percent.decode_char]

/-- The marks of a form stand in none of its parts. -/
theorem notMem_encodePart {mark : Char} (hkept : isKept mark = false)
    (hmark : mark ∉ '+' :: Percent.octetChars) (text : String) : mark ∉ encodePart text := by
  intro h
  rw [List.mem_cons, not_or] at hmark
  obtain ⟨c, -, hc⟩ := List.mem_flatMap.1 h
  unfold encodeChar at hc
  split at hc
  · exact hmark.1 (List.mem_singleton.1 hc)
  · split at hc
    · next hk =>
      obtain rfl := List.mem_singleton.1 hc
      rw [hkept] at hk
      cases hk
    · exact hmark.2 (Percent.mem_octetChars_of_mem_char hc)

theorem equals_notMem_encodePart (text : String) : '=' ∉ encodePart text :=
  notMem_encodePart (by decide) (by decide) text

theorem ampersand_notMem_encodePair (pair : String × String) : '&' ∉ encodePair pair := by
  have hpart : ∀ text, '&' ∉ encodePart text := notMem_encodePart (by decide) (by decide)
  simp [encodePair, hpart]

/-! ## Parts, pairs and forms -/

/-- A name or a value is read back. -/
theorem decodePart_encodePart (text : String) : decodePart (encodePart text) = text := by
  have hoctets : ∀ chars : List Char,
      Percent.decode ((chars.flatMap encodeChar).map unplus) = utf8Octets chars := by
    intro chars
    induction chars with
    | nil => rfl
    | cons c chars ih =>
      rw [List.flatMap_cons, List.map_append, decode_encodeChar, ih, utf8Octets, utf8Octets,
        List.flatMap_cons]
  exact (congrArg decodeOctets (hoctets text.toList)).trans
    ((decodeOctets_utf8Octets _).trans text.ofList_toList)

/-- A pair is read back, as the first equals sign is the one between its parts. -/
theorem decodePair_encodePair (pair : String × String) : decodePair (encodePair pair) = pair := by
  have hname := Text.bne_of_notMem (equals_notMem_encodePart pair.1)
  rw [decodePair, encodePair, List.takeWhile_append_of_pos hname,
    List.dropWhile_append_of_pos hname, List.takeWhile_cons_of_neg (by decide),
    List.dropWhile_cons_of_neg (by decide), List.append_nil, List.drop_one, List.tail_cons,
    decodePart_encodePart, decodePart_encodePart]

/-- A form is read back from the query that it was written as. -/
theorem decode_encode (form : Form) : decode (encode form) = form := by
  cases form with
  | nil => rfl
  | cons pair rest =>
    have hparts : Text.splitAt '&' (encode (pair :: rest)) = (pair :: rest).map encodePair := by
      refine Text.splitAt_intercalate (by simp) fun part hpart => ?_
      obtain ⟨other, -, rfl⟩ := List.mem_map.1 hpart
      exact ampersand_notMem_encodePair other
    have hnonempty : ∀ part ∈ (pair :: rest).map encodePair, (!part.isEmpty) = true := by
      intro part hpart
      obtain ⟨other, -, rfl⟩ := List.mem_map.1 hpart
      simp [encodePair]
    rw [decode, hparts, List.filter_eq_self.2 hnonempty, List.map_map]
    exact (List.map_congr_left fun other _ => decodePair_encodePair other).trans (List.map_id _)

/-- Different forms are different queries. -/
theorem encode_injective : Function.Injective encode :=
  Function.LeftInverse.injective decode_encode

theorem encode_ne_nil {form : Form} (h : form ≠ []) : encode form ≠ [] :=
  fun hnil => h (encode_injective (hnil.trans rfl : encode form = encode []))

end Form

end NotionProject
