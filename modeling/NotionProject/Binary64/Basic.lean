/-!
# Finite binary64 numbers

A `Binary64` is a sign, a biased exponent below 2047 and a fraction of 52 bits, so every
value of the type is a finite number and every finite number has one form (two for zero).
All arithmetic is exact arithmetic on natural numbers followed by one rounding,
`ofRatio?`, to the nearest number, of two equally near ones to the one with an even
significand. A result too large for the format is `none`.
-/

namespace NotionProject

/-- A finite number of the binary64 format. -/
structure Binary64 where
  negative : Bool
  exponent : Nat
  fraction : Nat
  exponent_lt : exponent < 2047
  fraction_lt : fraction < Nat.pow 2 52
deriving DecidableEq

namespace Binary64

/-- The zero of a sign. -/
def zero (negative : Bool) : Binary64 :=
  ⟨negative, 0, 0, by decide, by decide⟩

instance : Inhabited Binary64 := ⟨zero false⟩

/-- The integral significand, with the hidden bit of a normal number. -/
def significand (x : Binary64) : Nat :=
  if x.exponent = 0 then x.fraction else Nat.pow 2 52 + x.fraction

/-- The power of two that the significand is multiplied by. -/
def power (x : Binary64) : Int :=
  (max x.exponent 1 : Nat) - 1075

/-- Whether the number is one of the two zeros. -/
def isZero (x : Binary64) : Bool :=
  x.significand == 0

/-- The number with the other sign. -/
def neg (x : Binary64) : Binary64 :=
  { x with negative := !x.negative }

/-- The magnitude as a quotient. -/
def ratio (x : Binary64) : Nat × Nat :=
  (x.significand * Nat.pow 2 x.power.toNat, Nat.pow 2 (-x.power).toNat)

/-! ## Rounding -/

/-- The integer nearest to `num / den`, of two the even one. -/
def nearestEven (num den : Nat) : Nat :=
  let quotient := num / den
  let twice := 2 * (num % den)
  if twice < den then quotient
  else if den < twice then quotient + 1
  else quotient + quotient % 2

/-- The largest `k` with `2 ^ k ≤ num / den`. -/
def floorLog2 (num den : Nat) : Int :=
  let k : Int := (Nat.log2 num : Int) - (Nat.log2 den : Int)
  if den * Nat.pow 2 k.toNat ≤ num * Nat.pow 2 (-k).toNat then k else k - 1

/-- The number with a significand of at most 53 bits and a power of two not below -1074, if
it is in range. A significand of fewer bits goes with the least power only. -/
def assemble? (negative : Bool) (significand : Nat) (power : Int) : Option Binary64 :=
  if h : significand < Nat.pow 2 52 then
    some ⟨negative, 0, significand, by decide, h⟩
  else
    let exponent := (power + 1075).toNat
    if h : exponent < 2047 ∧ significand - Nat.pow 2 52 < Nat.pow 2 52 then
      some ⟨negative, exponent, significand - Nat.pow 2 52, h.1, h.2⟩
    else
      none

/-- The number nearest to `num / den`, or `none` if that is beyond the largest one. -/
def ofRatio? (negative : Bool) (num den : Nat) : Option Binary64 :=
  if num = 0 then some (zero negative)
  else
    let power := max (floorLog2 num den - 52) (-1074)
    let significand := nearestEven (num * Nat.pow 2 (-power).toNat) (den * Nat.pow 2 power.toNat)
    if significand = Nat.pow 2 53 then assemble? negative (Nat.pow 2 52) (power + 1)
    else assemble? negative significand power

/-- The number nearest to an integer. -/
def ofInt? (n : Int) : Option Binary64 :=
  ofRatio? (decide (n < 0)) n.natAbs 1

/-- The rounded product. -/
def mul? (x y : Binary64) : Option Binary64 :=
  ofRatio? (x.negative != y.negative) (x.ratio.1 * y.ratio.1) (x.ratio.2 * y.ratio.2)

/-- The rounded quotient. A quotient by zero has no finite value. -/
def div? (x y : Binary64) : Option Binary64 :=
  if y.isZero then none
  else ofRatio? (x.negative != y.negative) (x.ratio.1 * y.ratio.2) (x.ratio.2 * y.ratio.1)

end Binary64

end NotionProject
