import NotionProject.Decode.Plain
import Mathlib.Data.Finite.Prod
import Mathlib.Data.Nat.Digits.Defs
import Mathlib.Data.Set.Finite.Lattice
import Mathlib.Order.Bounds.Basic

/-!
# How long the wording of an error is

The error of a decoder tells what was expected, which does not depend on the text, and what was
found, which does. An error that holds no more of a text than there is in it (`DecodeError.Within`)
takes from a text at most ten characters for each one of the string that it quotes, if it quotes
one, and else the digits of the length at most (`DecodeError.room`); the rest of its wording has a
bound that is the same for all texts (`DecodeError.exists_length_message_le`). A string that is
quoted is shown as a whole (`DecodeError.Within.length_message`).

That is the wording without the line and the column at which the reader stopped, which are left out
(`DecodeError.message`). A number needs no room, since there are only so many: an integer has 64
bits, and binary64 numbers are finitely many.
-/

namespace NotionProject

/-! ## Quoted text -/

/-- A code point has six digits at most. -/
theorem length_hexText_le (c : Char) : (hexText c.toNat).length ≤ 6 := by
  have hvalid : c.toNat < 0xD800 ∨ 0xDFFF < c.toNat ∧ c.toNat < 0x110000 := c.valid
  exact Nat.toDigits_length 16 c.toNat 6 (by decide) (by omega)

/-- A character is written as itself or as an escape, the longest of which tells its code point. -/
theorem length_quoteChar (c : Char) :
    0 < (quoteChar c).length ∧ (quoteChar c).length ≤ 10 := by
  unfold quoteChar
  split
  case h_7 =>
    split
    · have := length_hexText_le c
      simp only [List.length_append, List.length_cons, List.length_nil]
      omega
    · exact ⟨Nat.one_pos, by simp⟩
  all_goals decide

theorem length_flatMap_quoteChar (chars : List Char) :
    chars.length ≤ (chars.flatMap quoteChar).length ∧
      (chars.flatMap quoteChar).length ≤ 10 * chars.length := by
  induction chars with
  | nil => exact ⟨Nat.le_refl 0, Nat.le_refl 0⟩
  | cons c chars ih =>
    have hfirst := length_quoteChar c
    rw [List.flatMap_cons, List.length_append, List.length_cons]
    omega

/-- Between quotes a text is longer, by ten characters for each of its own at most. -/
theorem length_quoted (s : String) :
    s.length < (quoted s).length ∧ (quoted s).length ≤ 10 * s.length + 2 := by
  have hlength := length_flatMap_quoteChar s.toList
  rw [String.length_toList] at hlength
  simp only [quoted, String.length_ofList, List.length_cons, List.length_append, List.length_nil]
  omega

/-! ## Numbers -/

instance : Finite Binary64 :=
  Finite.of_injective
    (fun x => (x.negative, (⟨x.exponent, x.exponent_lt⟩ : Fin 2047),
      (⟨x.fraction, x.fraction_lt⟩ : Fin (Nat.pow 2 52))))
    (by
      rintro ⟨n, e, f, he, hf⟩ ⟨n', e', f', he', hf'⟩ h
      simp_all)

/-- There are finitely many binary64 numbers, so one of their texts is the longest. -/
theorem Binary64.exists_length_text_le : ∃ bound, ∀ x : Binary64, x.text.length ≤ bound := by
  obtain ⟨bound, h⟩ := (Set.finite_range fun x : Binary64 => x.text.length).bddAbove
  exact ⟨bound, fun x => h ⟨x, rfl⟩⟩

/-- A larger number has no fewer digits. -/
theorem length_toDigits_le_of_le {m n : Nat} (h : m ≤ n) :
    (Nat.toDigits 10 m).length ≤ (Nat.toDigits 10 n).length := by
  induction m using Nat.strongRecOn generalizing n with
  | ind m ih =>
    by_cases hm : m < 10
    · rw [Nat.toDigits_of_lt_base hm]
      exact Nat.succ_le_of_lt (List.length_pos_iff.2 Nat.toDigits_ne_nil)
    · rw [Nat.toDigits_of_base_le (by decide) (by omega),
        Nat.toDigits_of_base_le (by decide) (by omega : 10 ≤ n), List.length_append,
        List.length_append]
      exact Nat.add_le_add_right (ih (m / 10) (by omega) (Nat.div_le_div_right h)) 1

/-- How many digits a number has. -/
def digitCount (n : Nat) : Nat :=
  (toString n).length

theorem digitCount_mono {m n : Nat} (h : m ≤ n) : digitCount m ≤ digitCount n := by
  have := length_toDigits_le_of_le h
  simpa [digitCount, Nat.repr] using this

theorem digitCount_le (n : Nat) : digitCount n ≤ n + 1 :=
  Nat.repr_length n (n + 1) (Nat.succ_pos n)
    (Nat.lt_of_lt_of_le n.lt_succ_self (Nat.le_of_lt (Nat.lt_pow_self (by decide))))

/-- An integer of 64 bits has twenty digits at most, and a sign. -/
theorem length_toString_int_le {i : Int} (h : i.natAbs < Nat.pow 2 64) :
    (toString i).length ≤ 21 := by
  have hdigits : ∀ n, n ≤ Nat.pow 2 64 → (Nat.repr n).length ≤ 20 := fun n hn =>
    Nat.repr_length n 20 (by decide) (Nat.lt_of_le_of_lt hn (by decide))
  cases i with
  | ofNat n =>
    exact Nat.le_succ_of_le (hdigits n (Nat.le_of_lt h))
  | negSucc n =>
    have := hdigits (n + 1) (Nat.le_of_lt h)
    change ("-" ++ Nat.repr (n + 1)).length ≤ 21
    rw [String.length_append]
    change 1 + _ ≤ 21
    omega

theorem TextError.length_message_le (error : TextError) : error.message.length ≤ 70 := by
  cases error <;> decide +kernel

theorem TimeError.length_message_le (error : TimeError) : error.message.length ≤ 70 := by
  cases error <;> decide +kernel

/-! ## Errors -/

/-- What was found is something that a text of so many characters can hold. -/
def Found.Within (n : Nat) : Found → Prop
  | number (.integer i) => i.natAbs < Nat.pow 2 64
  | string s => s.length ≤ n
  | _ => True

/-- All that can be found but a string is told in a bounded number of characters. -/
theorem Found.exists_length_description_le : ∃ bound, ∀ {n : Nat} {found : Found},
    found.Within n → (∀ s, found ≠ string s) → found.description.length ≤ bound := by
  obtain ⟨real, hreal⟩ := Binary64.exists_length_text_le
  refine ⟨real + 40, fun {n found} h hstring => ?_⟩
  have hshort : ∀ text : String, text.length ≤ 40 → text.length ≤ real + 40 := fun _ htext =>
    Nat.le_add_left_of_le htext
  cases found with
  | string s => exact absurd rfl (hstring s)
  | number number =>
    cases number with
    | integer i =>
      have hlength := length_toString_int_le h
      have hwords : "integer `".length = 9 ∧ "`".length = 1 := ⟨rfl, rfl⟩
      change ("integer `" ++ toString i ++ "`").length ≤ _
      simp only [String.length_append]
      omega
    | real x =>
      have hlength := hreal x
      have hwords : "floating point `".length = 16 ∧ "`".length = 1 := ⟨rfl, rfl⟩
      change ("floating point `" ++ String.ofList x.text ++ "`").length ≤ _
      simp only [String.length_append, String.length_ofList]
      omega
  | bool b => cases b <;> exact hshort _ (by decide +kernel)
  | null | sequence | map => exact hshort _ (by decide +kernel)

namespace DecodeError

/-- What the error tells of a text is no more than a text of so many characters holds, and what it
says beside that has a bound. -/
def Within (bound n : Nat) : DecodeError → Prop
  | text _ => True
  | unexpected found expected => found.Within n ∧ expected.length ≤ bound
  | missingField name => name.length ≤ bound
  | duplicateField name => name.length ≤ bound
  | unknownVariant name known => name.length ≤ n ∧ (alternatives known).length ≤ bound
  | badLength length expected => (length ≤ bound ∨ length ≤ n) ∧ expected.length ≤ bound
  | refused error => error.message.length ≤ bound + n
  | time _ => True

/-- The string of the text that the error quotes, or what is said in its refusal. -/
def quoted? : DecodeError → Option String
  | unexpected (.string s) _ => some s
  | unknownVariant name _ => some name
  | refused error => some error.message
  | _ => none

/-- How many characters the wording may take from a text of so many: a string that is quoted is
written with escapes of at most ten characters, and else a count is all that the wording takes. -/
def room (error : DecodeError) (n : Nat) : Nat :=
  match error.quoted? with
  | some s => 10 * s.length
  | none => digitCount n

section Message

variable {bound n : Nat}

/-- The wording has what was found and what was expected, and 25 characters around them. -/
theorem length_message_unexpected (found : Found) (expected : String) :
    (unexpected found expected).message.length =
      found.description.length + expected.length + 25 := by
  have hwords : "invalid type: ".length = 14 ∧ ", expected ".length = 11 := ⟨rfl, rfl⟩
  change ("invalid type: " ++ found.description ++ ", expected " ++ expected).length = _
  simp only [String.length_append]
  omega

/-- A number of items is told by its digits; it is bounded, or no larger than the text. -/
theorem length_message_badLength_le {length : Nat} {expected : String}
    (h : (badLength length expected).Within bound n) :
    (badLength length expected).message.length ≤ digitCount n + (2 * bound + 30) := by
  have hwords : "invalid length ".length = 15 ∧ ", expected ".length = 11 := ⟨rfl, rfl⟩
  have hcount : digitCount length ≤ digitCount n + (bound + 1) := by
    rcases h.1 with hlength | hlength
    · exact Nat.le_add_left_of_le (Nat.le_trans (digitCount_mono hlength) (digitCount_le bound))
    · exact Nat.le_add_right_of_le (digitCount_mono hlength)
  have hexpected := h.2
  change ("invalid length " ++ toString length ++ ", expected " ++ expected).length ≤ _
  simp only [String.length_append]
  rw [digitCount] at hcount
  omega

section Quoted

variable {error : DecodeError} {s : String}

/-- No more can be quoted than there is. -/
theorem Within.length_le_of_quoted (h : error.Within bound n) (hs : error.quoted? = some s) :
    s.length ≤ bound + n := by
  cases error with
  | unexpected found expected =>
    cases found with
    | string text =>
      cases hs
      exact Nat.le_add_left_of_le h.1
    | null | bool b | number k | sequence | map => cases hs
  | unknownVariant name known =>
    cases hs
    exact Nat.le_add_left_of_le h.1
  | refused error =>
    cases hs
    exact h
  | text error | missingField name | duplicateField name | badLength length expected
  | time error => cases hs

/-- What is quoted is shown as a whole, and with escapes of at most ten characters. -/
theorem Within.length_message (h : error.Within bound n) (hs : error.quoted? = some s) :
    s.length ≤ error.message.length ∧ error.message.length ≤ 10 * s.length + (bound + 40) := by
  cases error with
  | unexpected found expected =>
    cases found with
    | string text =>
      cases hs
      have hexpected := h.2
      have hquoted := length_quoted s
      have hwords : "string ".length = 7 := rfl
      have hdescription : (Found.string s).description.length = 7 + (quoted s).length := by
        change ("string " ++ quoted s).length = _
        rw [String.length_append, hwords]
      rw [length_message_unexpected, hdescription]
      omega
    | null | bool b | number k | sequence | map => cases hs
  | unknownVariant name known =>
    cases hs
    have hknown := h.2
    have hwords : "unknown variant `".length = 17 ∧ "`, expected ".length = 12 := ⟨rfl, rfl⟩
    change _ ≤ ("unknown variant `" ++ s ++ "`, expected " ++ alternatives known).length ∧
      ("unknown variant `" ++ s ++ "`, expected " ++ alternatives known).length ≤ _
    simp only [String.length_append]
    omega
  | refused error =>
    cases hs
    change error.message.length ≤ error.message.length ∧ error.message.length ≤ _
    omega
  | text error | missingField name | duplicateField name | badLength length expected
  | time error => cases hs

end Quoted

/-- Where nothing is quoted, a count is all that the wording takes from the text. -/
theorem exists_length_message_le_of_not_quoted : ∃ base, ∀ {bound n : Nat} {error : DecodeError},
    error.Within bound n → error.quoted? = none →
      error.message.length ≤ digitCount n + (2 * bound + base) := by
  obtain ⟨base, hbase⟩ := Found.exists_length_description_le
  refine ⟨base + 100, fun {bound n error} h hquoted => ?_⟩
  have hshort : ∀ {length : Nat}, length ≤ 2 * bound + (base + 100) →
      length ≤ digitCount n + (2 * bound + (base + 100)) := fun h => Nat.le_add_left_of_le h
  cases error with
  | text error => exact hshort (Nat.le_trans error.length_message_le (by omega))
  | time error => exact hshort (Nat.le_trans error.length_message_le (by omega))
  | unexpected found expected =>
    obtain ⟨hfound, hexpected⟩ := h
    have hdescription := hbase hfound (by rintro s rfl; cases hquoted)
    rw [length_message_unexpected]
    exact hshort (by omega)
  | missingField name =>
    have hname : name.length ≤ bound := h
    have hwords : "missing field `".length = 15 ∧ "`".length = 1 := ⟨rfl, rfl⟩
    change ("missing field `" ++ name ++ "`").length ≤ _
    simp only [String.length_append]
    exact hshort (by omega)
  | duplicateField name =>
    have hname : name.length ≤ bound := h
    have hwords : "duplicate field `".length = 17 ∧ "`".length = 1 := ⟨rfl, rfl⟩
    change ("duplicate field `" ++ name ++ "`").length ≤ _
    simp only [String.length_append]
    exact hshort (by omega)
  | badLength length expected =>
    exact Nat.le_trans (length_message_badLength_le h) (by omega)
  | unknownVariant name known | refused error => cases hquoted

/-- Beside the room that it takes from the text, every wording has one bound. -/
theorem exists_length_message_le : ∃ base, ∀ {bound n : Nat} {error : DecodeError},
    error.Within bound n → error.message.length ≤ error.room n + (2 * bound + base) := by
  obtain ⟨base, hbase⟩ := exists_length_message_le_of_not_quoted
  refine ⟨base + 40, fun {bound n error} h => ?_⟩
  rw [room]
  split
  · next s hs =>
    have hlength := (h.length_message hs).2
    omega
  · next hquoted =>
    have hlength := hbase h hquoted
    omega

end Message

end DecodeError

end NotionProject
