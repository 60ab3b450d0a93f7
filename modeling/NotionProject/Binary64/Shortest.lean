import NotionProject.Binary64.Basic

/-!
# The shortest decimal of a binary64 number

`shortest` finds the decimal with the fewest digits among those that round to a given
number, and of these the one nearest to it. It tests, for one digit, two digits and so on,
the two neighbours of the number on the grid of decimals with that many digits. `text`
writes the decimal: positionally while the leading digit stands for a power of ten from
`10 ^ -5` to `10 ^ 15`, and with a signed exponent otherwise.
-/

namespace NotionProject

namespace Binary64

/-- A positive decimal: an integer times a power of ten. -/
structure Decimal where
  digits : Nat
  power : Int
deriving DecidableEq

namespace Decimal

/-- How many digits an integer has. -/
def width (n : Nat) : Nat :=
  (Nat.toDigits 10 n).length

/-- The largest `k` with `10 ^ k ≤ num / den`. -/
def floorLog10 (num den : Nat) : Int :=
  if den ≤ num then (width (num / den) : Int) - 1
  else -(width ((den + num - 1) / num - 1) : Int)

/-- The digits of the decimal without the zeros at their end. -/
def significantDigits (d : Decimal) : List Char :=
  ((Nat.toDigits 10 d.digits).reverse.dropWhile (· == '0')).reverse

/-- The power of ten of the leading digit. -/
def leadingPower (d : Decimal) : Int :=
  d.power + (width d.digits : Int) - 1

/-- Digits with a point after the first `whole` of them, padded with zeros. -/
def pointAfter (whole : Nat) (digits : List Char) : List Char :=
  let left := digits.take whole ++ List.replicate (whole - digits.length) '0'
  let right := digits.drop whole
  left ++ '.' :: (if right.isEmpty then ['0'] else right)

/-- The text of the decimal. -/
def text (d : Decimal) : List Char :=
  let digits := d.significantDigits
  let k := d.leadingPower
  if 0 ≤ k ∧ k ≤ 15 then pointAfter (k.toNat + 1) digits
  else if -5 ≤ k ∧ k < 0 then
    '0' :: '.' :: List.replicate ((-k).toNat - 1) '0' ++ digits
  else
    let mantissa :=
      match digits with
      | [] => ['0']
      | [d] => [d]
      | d :: rest => d :: '.' :: rest
    mantissa ++ 'e' :: (if k < 0 then '-' else '+') :: Nat.toDigits 10 k.natAbs

end Decimal

/-- The quotients between which the decimals lie that round to a positive number: half a
step below it and half a step above, where the step below a power of two is half as wide.
All three parts have the same denominator. -/
structure Neighbourhood where
  low : Nat
  value : Nat
  high : Nat
  den : Nat
  closed : Bool

/-- The neighbourhood of a number that is not zero. Its ends belong to it when the
significand is even. -/
def neighbourhood (x : Binary64) : Neighbourhood :=
  let up := Nat.pow 2 x.power.toNat
  let below := if x.fraction = 0 ∧ 1 < x.exponent then 1 else 2
  { low := (4 * x.significand - below) * up
    value := 4 * x.significand * up
    high := (4 * x.significand + 2) * up
    den := 4 * Nat.pow 2 (-x.power).toNat
    closed := x.significand % 2 == 0 }

/-- Whether the quotient `num / den` lies in the neighbourhood. -/
def Neighbourhood.has (nb : Neighbourhood) (num den : Nat) : Bool :=
  if nb.closed then nb.low * den ≤ num * nb.den && num * nb.den ≤ nb.high * den
  else nb.low * den < num * nb.den && num * nb.den < nb.high * den

/-- The decimal with the unit `10 ^ power` that is nearest to the number among its two
neighbours on that grid which lie in the neighbourhood. -/
def Neighbourhood.onGrid? (nb : Neighbourhood) (power : Int) : Option Decimal :=
  let up := Nat.pow 10 power.toNat
  let down := Nat.pow 10 (-power).toNat
  let num := nb.value * down
  let den := nb.den * up
  let lower := num / den
  let upper := lower + 1
  let isLower := nb.has (lower * up) down && lower != 0
  let isUpper := nb.has (upper * up) down
  if isLower && isUpper then some ⟨nearestEven num den, power⟩
  else if isLower then some ⟨lower, power⟩
  else if isUpper then some ⟨upper, power⟩
  else none

/-- The first grid with a hit, from one digit on; seventeen digits always suffice. -/
def shortest (x : Binary64) : Decimal :=
  let nb := x.neighbourhood
  let leading := Decimal.floorLog10 nb.value nb.den
  let hit := (List.range 17).findSome? fun (n : Nat) => nb.onGrid? (leading - (n : Int))
  hit.getD ⟨0, 0⟩

/-- The number as text: the shortest decimal that reads back. -/
def text (x : Binary64) : List Char :=
  let magnitude := if x.isZero then ['0', '.', '0'] else x.shortest.text
  if x.negative then '-' :: magnitude else magnitude

end Binary64

end NotionProject
