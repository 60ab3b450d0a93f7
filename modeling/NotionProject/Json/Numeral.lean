import NotionProject.Json.Basic
import NotionProject.Json.Fault

/-!
# Numbers in a JSON text

A `Numeral` is the text of a number taken apart. `Numeral.scan` finds it at the start of a
text, and `Numeral.value` says which number it is: an integer, if it is written as one and
fits in 64 bits, else the product or quotient of two binary64 numbers, an integer of 64
bits and a power of ten. That number is not always the binary64 number nearest to what is
written.
-/

namespace NotionProject

/-- The text of a number. -/
structure Numeral where
  negative : Bool
  whole : List Char
  fraction : Option (List Char)
  exponent : Option (Bool × List Char)

namespace Numeral

/-! ## Finding a numeral -/

/-- The digits before the point. A zero is not followed by a digit. -/
def scanWhole : List Char → Except Fault (List Char × List Char)
  | [] => .error ⟨.endInValue, .badNumber⟩
  | c :: rest =>
    if c = '0' then
      match rest with
      | [] => .ok (['0'], [])
      | d :: more => if d.isDigit then .error (.plain .badNumber) else .ok (['0'], d :: more)
    else if c.isDigit then .ok (c :: rest.takeWhile Char.isDigit, rest.dropWhile Char.isDigit)
    else .error (.plain .badNumber)

/-- At least one digit. -/
def scanDigits (text : List Char) : Except Fault (List Char × List Char) :=
  match text with
  | [] => .error ⟨.endInValue, .badNumber⟩
  | c :: _ =>
    if c.isDigit then .ok (text.takeWhile Char.isDigit, text.dropWhile Char.isDigit)
    else .error (.plain .badNumber)

/-- The digits after a point, if there is one. -/
def scanFraction : List Char → Except Fault (Option (List Char) × List Char)
  | '.' :: rest => do
    let (digits, rest) ← scanDigits rest
    pure (some digits, rest)
  | text => .ok (none, text)

/-- The sign and the digits of an exponent, if there is one; the sign is true for a
negative exponent. -/
def scanExponent : List Char → Except Fault (Option (Bool × List Char) × List Char)
  | [] => .ok (none, [])
  | c :: rest =>
    if c = 'e' ∨ c = 'E' then do
      let (negative, rest) :=
        match rest with
        | '+' :: rest => (false, rest)
        | '-' :: rest => (true, rest)
        | rest => (false, rest)
      let (digits, rest) ← scanDigits rest
      pure (some (negative, digits), rest)
    else .ok (none, c :: rest)

/-- The numeral at the start of a text, and the text after it. -/
def scan (text : List Char) : Except Fault (Numeral × List Char) := do
  let (negative, text) :=
    match text with
    | '-' :: rest => (true, rest)
    | text => (false, text)
  let (whole, text) ← scanWhole text
  let (fraction, text) ← scanFraction text
  let (exponent, text) ← scanExponent text
  pure (⟨negative, whole, fraction, exponent⟩, text)

/-- The digits before the point take a character at least. -/
theorem length_of_scanWhole {text digits rest : List Char}
    (h : scanWhole text = .ok (digits, rest)) : rest.length < text.length := by
  unfold scanWhole at h
  split at h
  · simp at h
  next c tail =>
    split at h
    · split at h
      · simp only [Except.ok.injEq, Prod.mk.injEq] at h
        simp [← h.2]
      · split at h
        · simp at h
        · simp only [Except.ok.injEq, Prod.mk.injEq] at h
          simp [← h.2]
    · split at h
      · simp only [Except.ok.injEq, Prod.mk.injEq] at h
        rw [← h.2]
        exact Nat.lt_succ_of_le ((List.dropWhile_suffix _).length_le)
      · simp at h

/-- No more text is left than there was. -/
theorem length_of_scanDigits {text digits rest : List Char}
    (h : scanDigits text = .ok (digits, rest)) : rest.length ≤ text.length := by
  unfold scanDigits at h
  split at h
  · simp at h
  · split at h
    · simp only [Except.ok.injEq, Prod.mk.injEq] at h
      rw [← h.2]
      exact (List.dropWhile_suffix _).length_le
    · simp at h

/-- Nor is there behind a fraction. -/
theorem length_of_scanFraction {text rest : List Char} {digits : Option (List Char)}
    (h : scanFraction text = .ok (digits, rest)) : rest.length ≤ text.length := by
  unfold scanFraction at h
  split at h
  next tail =>
    rcases hd : scanDigits tail with _ | ⟨found, left⟩ <;>
      simp only [hd, bind, Except.bind, pure, Except.pure] at h
    · cases h
    · cases h
      exact Nat.le_succ_of_le (length_of_scanDigits hd)
  next =>
    cases h
    exact Nat.le_refl _

/-- Nor is there behind an exponent. -/
theorem length_of_scanExponent {text rest : List Char} {digits : Option (Bool × List Char)}
    (h : scanExponent text = .ok (digits, rest)) : rest.length ≤ text.length := by
  unfold scanExponent at h
  split at h
  · cases h
    exact Nat.le_refl _
  next c tail =>
    split at h
    · simp only [bind, Except.bind, pure, Except.pure] at h
      split at h
      · cases h
      next found hd =>
        obtain ⟨d, left⟩ := found
        cases h
        have := length_of_scanDigits hd
        simp only [List.length_cons]
        split at this <;> simp only [List.length_cons] at * <;> omega
    · cases h
      exact Nat.le_refl _

/-- A numeral is not empty. -/
theorem length_of_scan {text rest : List Char} {numeral : Numeral}
    (h : scan text = .ok (numeral, rest)) : rest.length < text.length := by
  unfold scan at h
  simp only [bind, Except.bind, pure, Except.pure] at h
  split at h
  · cases h
  next w hw =>
    obtain ⟨whole, text₁⟩ := w
    simp only at h
    split at h
    · cases h
    next f hf =>
      obtain ⟨fraction, text₂⟩ := f
      simp only at h
      split at h
      · cases h
      next e he =>
        obtain ⟨exponent, text₃⟩ := e
        cases h
        have h₁ := length_of_scanWhole hw
        have h₂ := length_of_scanFraction hf
        have h₃ := length_of_scanExponent he
        simp only at *
        split at h₁ <;> simp only [List.length_cons] at * <;> omega

/-! ## The number it stands for -/

/-- The value of a digit. -/
def digitValue (c : Char) : Nat :=
  c.toNat - '0'.toNat

/-- The number of a row of digits. -/
def digitsValue (digits : List Char) : Nat :=
  digits.foldl (fun n c => n * 10 + digitValue c) 0

/-- Appends digits to an integer as long as it stays below `2 ^ 64`; also what digits are
left over. -/
def absorb (n : Nat) : List Char → Nat × List Char
  | [] => (n, [])
  | c :: rest =>
    let longer := n * 10 + digitValue c
    if longer < Nat.pow 2 64 then absorb longer rest else (n, c :: rest)

/-- The binary64 number nearest to a power of ten of the format's range. -/
def powerOfTen? (n : Nat) : Option Binary64 :=
  Binary64.ofRatio? false (Nat.pow 10 n) 1

/-- A number divided so many times by the largest power of ten of the format. -/
def divideByLargest? : Nat → Binary64 → Option Binary64
  | 0, x => some x
  | steps + 1, x =>
    if x.isZero then some x
    else ((powerOfTen? 308).bind x.div?).bind (divideByLargest? steps)

/-- The quotient of a number and `10 ^ n`. It is taken in steps, as powers above the
308th are out of range. -/
def divideByPower? (x : Binary64) (n : Nat) : Option Binary64 :=
  let steps := (n - 1) / 308
  (divideByLargest? steps x).bind fun y => (powerOfTen? (n - 308 * steps)).bind y.div?

/-- The product of a number and `10 ^ n`. -/
def timesPower? (x : Binary64) (n : Nat) : Option Binary64 :=
  if n ≤ 308 then (powerOfTen? n).bind x.mul?
  else if x.isZero then some x
  else none

/-- The product of an integer and a power of ten. -/
def scaled? (significand : Nat) (power : Int) : Option Binary64 := do
  let x ← Binary64.ofRatio? false significand 1
  if 0 ≤ power then timesPower? x power.toNat else divideByPower? x (-power).toNat

/-- A binary64 number with a sign. -/
def signed (negative : Bool) (x : Binary64) : Binary64 :=
  if negative then x.neg else x

/-- The integer written without a fraction and an exponent. Beyond 64 bits, and at minus
zero, it is a binary64 number. -/
def integer? (negative : Bool) (n : Nat) : Option Number :=
  if negative then
    if 0 < n ∧ n ≤ Nat.pow 2 63 then some (.integer (-n))
    else (Binary64.ofRatio? false n 1).map fun x => .real x.neg
  else some (.integer n)

/-- The power of ten of an exponent. -/
def exponentValue : Option (Bool × List Char) → Int
  | none => 0
  | some (true, digits) => -(digitsValue digits : Int)
  | some (false, digits) => digitsValue digits

/-- The number of a numeral, if it is in range. -/
def number? (numeral : Numeral) : Option Number :=
  let (n, tail) := absorb 0 numeral.whole
  match numeral.fraction, numeral.exponent, tail with
  | none, none, [] => integer? numeral.negative n
  | fraction, exponent, tail =>
    let digits := fraction.getD []
    let (significand, unread) := absorb n digits
    let power := (tail.length : Int) - ((digits.length - unread.length : Nat) : Int)
    (scaled? significand (power + exponentValue exponent)).map fun x =>
      .real (signed numeral.negative x)

/-- The number of a numeral. -/
def value (numeral : Numeral) : Except TextError Number :=
  match numeral.number? with
  | some n => .ok n
  | none => .error .numberOutOfRange

end Numeral

end NotionProject
