import NotionProject.Url.Domain.Composition
import NotionProject.Url.Domain.ScriptTable

/-!
# Names of hosts: the rules of scripts

A label of a name does not start with a mark. A joiner stands only where it can join. In a
name with text that is written from right to left no label mixes directions.
-/

namespace NotionProject

namespace Domain

/-- Whether a character is a mark of the character before it. -/
def isMark (c : Char) : Bool :=
  nonspacingRanges.has c || spacingRanges.has c

/-! ## Joiners -/

/-- The class of the marks that silence a vowel. -/
def viramaClass : Nat := 9

/-- Whether the neighbours of a character join through it. -/
def isJoinedThrough (c : Char) : Bool :=
  nonspacingRanges.has c || joinedThroughRanges.has c

/-- Whether the first character that is not joined through is in the set. -/
def joins (ranges : CodeRanges) (text : List Char) : Bool :=
  (text.dropWhile isJoinedThrough).head?.any ranges.has

/-- Whether each joiner of a text stands where it can join, after the text `before`, last
character first. Both stand after a mark that silences a vowel; the one that keeps letters
apart also stands between letters that would join. -/
def joinersFit (before : List Char) : List Char → Bool
  | [] => true
  | c :: rest =>
    let afterVirama := before.head?.any (combiningClass · == viramaClass)
    (if c = '\u200C' then
        afterVirama || (joins joinsNextRanges before && joins joinsPreviousRanges rest)
      else if c = '\u200D' then afterVirama
      else true) &&
      joinersFit (c :: before) rest

/-! ## Directions -/

/-- The direction in which a character is written. -/
inductive Direction where
  | leftToRight
  | rightToLeft
  | arabicNumber
  | europeanNumber
  | undirected
  | nonspacing
deriving DecidableEq

/-- The direction of a character. -/
def direction (c : Char) : Direction :=
  if rightToLeftRanges.has c then .rightToLeft
  else if arabicNumberRanges.has c then .arabicNumber
  else if europeanNumberRanges.has c then .europeanNumber
  else if undirectedRanges.has c then .undirected
  else if nonspacingRanges.has c then .nonspacing
  else .leftToRight

/-- Whether a text has a part that is written from right to left. -/
def turns (text : List Char) : Bool :=
  text.any fun c => direction c == .rightToLeft || direction c == .arabicNumber

/-- Whether a label keeps the direction of its first character, which has to have one. -/
def keepsDirection (label : List Char) : Bool :=
  let directions := label.map direction
  let last := (directions.reverse.dropWhile (· == .nonspacing)).headD .nonspacing
  match directions with
  | [] => true
  | .leftToRight :: _ =>
    directions.all (fun d => d != .rightToLeft && d != .arabicNumber) &&
      [.leftToRight, .europeanNumber].contains last
  | .rightToLeft :: _ =>
    directions.all (· != .leftToRight) &&
      [.rightToLeft, .europeanNumber, .arabicNumber].contains last &&
      !(directions.contains .europeanNumber && directions.contains .arabicNumber)
  | _ => false

/-- Nothing in ASCII is written from right to left. -/
theorem turns_of_ascii {text : List Char} (h : ∀ c ∈ text, isAscii c = true) :
    turns text = false := by
  simp only [turns, List.any_eq_false]
  intro c hc
  have hlt : c.toNat < 0x80 := by simpa [isAscii] using h c hc
  have hr : ∀ range ∈ rightToLeftRanges, 0x80 ≤ range.1 := by decide
  have ha : ∀ range ∈ arabicNumberRanges, 0x80 ≤ range.1 := by decide
  rw [direction, CodeRanges.has_eq_false fun range hm => Nat.lt_of_lt_of_le hlt (hr range hm),
    CodeRanges.has_eq_false fun range hm => Nat.lt_of_lt_of_le hlt (ha range hm)]
  by_cases he : europeanNumberRanges.has c <;> by_cases hu : undirectedRanges.has c <;>
    by_cases hn : nonspacingRanges.has c <;> simp [he, hu, hn]

end Domain

end NotionProject
