import NotionProject.Url.Domain.CompositionTable
import NotionProject.Url.Domain.Image

/-!
# Names of hosts: composition

The same letter with its marks may be written as one character or as several, and its marks
in any order. `composed` gives the one form of all these: the characters are taken apart, the
marks put in the order of their classes, and what can be joined is joined again. All
definitions here are for characters that a name keeps.
-/

namespace NotionProject

namespace Domain

/-- The class of a mark. It is zero for a character past which no mark moves. -/
def combiningClass (c : Char) : Nat :=
  if c.toNat < 0x300 then 0
  else (combiningClasses.findSome? fun (n, marks) => if marks.has c then some n else none).getD 0

/-! ## Joined characters -/

/-- The Korean syllable of a consonant and a vowel, or of such a syllable and the consonant
after it. -/
def syllable? (a b : Nat) : Option Nat :=
  if 0x1100 ≤ a ∧ a < 0x1113 ∧ 0x1161 ≤ b ∧ b < 0x1176 then
    some (0xAC00 + ((a - 0x1100) * 21 + (b - 0x1161)) * 28)
  else if 0xAC00 ≤ a ∧ a < 0xD7A4 ∧ (a - 0xAC00) % 28 = 0 ∧ 0x11A8 ≤ b ∧ b < 0x11C3 then
    some (a + (b - 0x11A7))
  else none

/-- What a Korean syllable is joined from. -/
def syllableParts? (code : Nat) : Option (Nat × Nat) :=
  if 0xAC00 ≤ code ∧ code < 0xD7A4 then
    let i := code - 0xAC00
    if i % 28 = 0 then some (0x1100 + i / 28 / 21, 0x1161 + i / 28 % 21)
    else some (code - i % 28, 0x11A7 + i % 28)
  else none

/-- The character that two characters become. -/
def joined? (a b : Char) : Option Char :=
  if b.toNat < 0x300 then none
  else
    ((syllable? a.toNat b.toNat).or
      ((compositions.lookup b.toNat).bind (·.lookup a.toNat))).map Char.ofNat

/-- The two characters that a character is joined from. -/
def parts? (c : Char) : Option (Char × Char) :=
  if c.toNat < 0xC0 then none
  else
    ((syllableParts? c.toNat).or
      (compositions.findSome? fun (second, firsts) =>
        (firsts.find? fun (_, whole) => whole == c.toNat).map fun (first, _) =>
          (first, second))).map fun (first, second) => (Char.ofNat first, Char.ofNat second)

/-! ## The composed form -/

/-- Takes every joined character apart once. -/
def takeApart (text : List Char) : List Char :=
  text.flatMap fun c =>
    match parts? c with
    | none => [c]
    | some (first, second) => [first, second]

/-- Puts a character before the text, and a mark behind the marks of lower classes there. -/
def putMark (c : Char) (text : List Char) : List Char :=
  let n := combiningClass c
  let isLower (d : Char) : Bool := 0 < combiningClass d && combiningClass d < n
  text.takeWhile isLower ++ c :: text.dropWhile isLower

/-- The text with its marks in the order of their classes. -/
def arrange (text : List Char) : List Char :=
  text.foldr putMark []

/-- Joins the characters of a text to the character before it, between which stand marks that
were not joined. A mark is not joined past another one of its class or a higher one, and
nothing else is joined past a mark. -/
def joinTo (first : Char) (marks : List Char) : List Char → List Char
  | [] => first :: marks
  | c :: rest =>
    let isNext := marks.all fun mark => combiningClass mark < combiningClass c
    match if isNext then joined? first c else none with
    | some whole => joinTo whole marks rest
    | none =>
      if combiningClass c = 0 then first :: marks ++ joinTo c [] rest
      else joinTo first (marks ++ [c]) rest

/-- The text with all characters joined that can be. -/
def join : List Char → List Char
  | [] => []
  | c :: rest => if combiningClass c = 0 then joinTo c [] rest else c :: join rest

/-- The composed form of a text. No character is joined from more than three others. -/
def composed (text : List Char) : List Char :=
  join (arrange (takeApart (takeApart text)))

/-! ## Texts in ASCII -/

/-- No character of ASCII is taken apart. -/
theorem takeApart_of_ascii {text : List Char} (h : ∀ c ∈ text, isAscii c = true) :
    takeApart text = text := by
  induction text with
  | nil => rfl
  | cons c rest ih =>
    have hc : c.toNat < 0xC0 := by
      have := h c List.mem_cons_self
      simp only [isAscii, decide_eq_true_eq] at this
      omega
    have := ih fun d hd => h d (List.mem_cons_of_mem _ hd)
    simp_all [takeApart, parts?]

/-- None is a mark. -/
theorem combiningClass_of_ascii {c : Char} (h : isAscii c = true) : combiningClass c = 0 := by
  simp only [isAscii, decide_eq_true_eq] at h
  exact if_pos (by omega)

/-- So there are no marks to put in order. -/
theorem arrange_of_ascii {text : List Char} (h : ∀ c ∈ text, isAscii c = true) :
    arrange text = text := by
  induction text with
  | nil => rfl
  | cons c rest ih =>
    have hrest : ∀ d ∈ rest, isAscii d = true := fun d hd => h d (List.mem_cons_of_mem _ hd)
    rw [arrange, List.foldr_cons, ← arrange, ih hrest, putMark]
    cases rest with
    | nil => rfl
    | cons d rest =>
      simp [combiningClass_of_ascii (hrest d List.mem_cons_self)]

/-- No character of ASCII is joined to the one before it. -/
theorem joinTo_of_ascii {text : List Char} (h : ∀ c ∈ text, isAscii c = true) (first : Char) :
    joinTo first [] text = first :: text := by
  induction text generalizing first with
  | nil => rfl
  | cons c rest ih =>
    have hc := h c List.mem_cons_self
    have hn : joined? first c = none := by
      simp only [isAscii, decide_eq_true_eq] at hc
      exact if_pos (by omega)
    simp [joinTo, hn, combiningClass_of_ascii hc, ih fun d hd => h d (List.mem_cons_of_mem _ hd)]

/-- A text in ASCII is composed. -/
theorem composed_of_ascii {text : List Char} (h : ∀ c ∈ text, isAscii c = true) :
    composed text = text := by
  rw [composed, takeApart_of_ascii h, takeApart_of_ascii h, arrange_of_ascii h]
  cases text with
  | nil => rfl
  | cons c rest =>
    rw [join, if_pos (combiningClass_of_ascii (h c List.mem_cons_self)),
      joinTo_of_ascii fun d hd => h d (List.mem_cons_of_mem _ hd)]

end Domain

end NotionProject
