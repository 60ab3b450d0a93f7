import NotionProject.Text.Split

/-!
# Punycode

A text as characters of ASCII: those that it has, a hyphen, and where all the others go.
These are put in one after the other, the lowest code points first and those that are equal
from left to right. Each is told by the number of places and code points that are passed over
since the one before it, a number in digits of base 36 of which the last is told by being low.

`encode` writes a text and `decode?` reads it. What both know while the characters are put in
is the `State`.
-/

namespace NotionProject

namespace Punycode

/-! ## Numbers -/

/-- The digit of a value: letters first, then figures. -/
def digit (n : Nat) : Char :=
  if n < 26 then Char.ofNat ('a'.toNat + n) else Char.ofNat ('0'.toNat + (n - 26))

/-- The value of a digit. -/
def digitValue? (c : Char) : Option Nat :=
  if 'a' ≤ c ∧ c ≤ 'z' then some (c.toNat - 'a'.toNat)
  else if '0' ≤ c ∧ c ≤ '9' then some (c.toNat - '0'.toNat + 26)
  else none

/-- The value below which a digit is the last one of its number. -/
def threshold (bias position : Nat) : Nat :=
  min 26 (max 1 (position - bias))

/-- The threshold is never zero, so a number has an end. -/
theorem threshold_pos (bias position : Nat) : 1 ≤ threshold bias position := by
  unfold threshold
  omega

theorem threshold_le (bias position : Nat) : threshold bias position ≤ 26 := by
  unfold threshold
  omega

/-- The digits of a number, the lowest first. The positions of digits are counted in steps
of 36. -/
def number (bias position n : Nat) : List Char :=
  let t := threshold bias position
  if n < t then [digit n]
  else digit (t + (n - t) % (36 - t)) :: number bias (position + 36) ((n - t) / (36 - t))
termination_by n
decreasing_by
  have := threshold_pos bias position
  have := Nat.div_le_self (n - threshold bias position) (36 - threshold bias position)
  omega

/-- The bias that suits numbers like `n`. -/
def settle (bias n : Nat) : Nat :=
  if 455 < n then settle (bias + 36) (n / 35) else bias + 36 * n / (n + 38)
termination_by n

/-! ## The characters outside ASCII -/

/-- What is known while characters are put in: the place after the last one and its code
point, how many there are in all, and what numbers are to be expected. -/
structure State where
  place : Nat
  code : Nat
  count : Nat
  bias : Nat
  isFirst : Bool

namespace State

/-- Nothing is put in yet. -/
def start (count : Nat) : State where
  place := 0
  code := 0x80
  count := count
  bias := 72
  isFirst := true

/-- After a character that was told by `n`. -/
def after (state : State) (n place code : Nat) : State :=
  let n := if state.isFirst then n / 700 else n / 2
  { place := place + 1
    code := code
    count := state.count + 1
    bias := settle 0 (n + n / (state.count + 1))
    isFirst := false }

end State

/-! ## Writing -/

/-- The characters that are put in, in order: their code points, and their places among
those that are there by then. -/
def insertions (text : List Char) : List (Nat × Nat) :=
  let others := text.zipIdx.filter fun (c, _) => 0x80 ≤ c.toNat
  (others.map fun (c, i) => (c.toNat, (text.take i).countP (·.toNat ≤ c.toNat))).mergeSort
    fun a b => a.1 ≤ b.1

/-- The numbers that tell where characters go. -/
def writeFrom (state : State) : List (Nat × Nat) → List Char
  | [] => []
  | (code, place) :: rest =>
    let n := (code - state.code) * (state.count + 1) + place - state.place
    number state.bias 36 n ++ writeFrom (state.after n place code) rest

/-- The written form of a text. -/
def encode (text : List Char) : List Char :=
  let basic := text.filter (·.toNat < 0x80)
  (if basic.isEmpty then [] else basic ++ ['-']) ++
    writeFrom (.start basic.length) (insertions text)

/-! ## Reading -/

/-- Puts the characters told by numbers into a text. Of the number at the start `n` is known
already, and its next digit counts `weight` at a position. -/
def readFrom (state : State) (text : List Char) (n weight position : Nat) :
    List Char → Option (List Char)
  | [] => if position = 36 then some text else none
  | c :: rest => do
    let d ← digitValue? c
    let t := threshold state.bias position
    let n := n + d * weight
    if d < t then
      let place := (state.place + n) % (state.count + 1)
      let code := state.code + (state.place + n) / (state.count + 1)
      if code.isValidChar then
        readFrom (state.after n place code) (text.insertIdx place (Char.ofNat code)) 0 1 36 rest
      else none
    else readFrom state text n (weight * (36 - t)) (position + 36) rest

/-- The text of a written form. -/
def decode? (written : List Char) : Option (List Char) :=
  match Text.splitLast? '-' written with
  | some (c :: basic, numbers) =>
    readFrom (.start (basic.length + 1)) (c :: basic) 0 1 36 numbers
  | _ => readFrom (.start 0) [] 0 1 36 written

end Punycode

end NotionProject
