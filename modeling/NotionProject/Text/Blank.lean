import NotionProject.Text.Ranges

/-!
# White space

`isBlank` is the white space of Unicode. `trim` takes it off both ends of a text, and
`dropEndWhile` takes any class of characters off the end.
-/

namespace NotionProject

/-- Code points with the property `White_Space`. -/
def blankRanges : CodeRanges :=
  [(0x09, 0x0D), (0x20, 0x20), (0x85, 0x85), (0xA0, 0xA0), (0x1680, 0x1680),
   (0x2000, 0x200A), (0x2028, 0x2029), (0x202F, 0x202F), (0x205F, 0x205F), (0x3000, 0x3000)]

/-- Whether a character is Unicode white space. -/
def isBlank (c : Char) : Bool :=
  blankRanges.has c

namespace Text

/-- The text without the characters of `drop` at its end. -/
def dropEndWhile (drop : Char → Bool) (text : List Char) : List Char :=
  (text.reverse.dropWhile drop).reverse

/-- The text without white space at either end. -/
def trim (text : List Char) : List Char :=
  dropEndWhile isBlank (text.dropWhile isBlank)

/-- What is left starts where the text starts. -/
theorem isPrefix_dropEndWhile (drop : Char → Bool) (text : List Char) :
    dropEndWhile drop text <+: text := by
  have h := List.dropWhile_suffix drop (l := text.reverse)
  have := List.reverse_prefix.2 h
  simpa [dropEndWhile] using this

/-- A text of which nothing is to be dropped stays whole. -/
theorem dropEndWhile_eq_self {drop : Char → Bool} {text : List Char}
    (h : ∀ c ∈ text, drop c = false) : dropEndWhile drop text = text := by
  have hr : text.reverse.dropWhile drop = text.reverse := by
    cases hrev : text.reverse with
    | nil => rfl
    | cons c rest =>
      have hc : c ∈ text := List.mem_reverse.1 (by simp [hrev])
      simp [List.dropWhile, h c hc]
  simp [dropEndWhile, hr]

/-- Nothing before a character that stays is dropped. -/
theorem dropEndWhile_append_cons {drop : Char → Bool} {c : Char} (h : drop c = false)
    (before after : List Char) :
    dropEndWhile drop (before ++ c :: after) = before ++ c :: dropEndWhile drop after := by
  have hreverse : (before ++ c :: after).reverse = after.reverse ++ c :: before.reverse := by simp
  have hkept : (c :: before.reverse).dropWhile drop = c :: before.reverse :=
    List.dropWhile_cons_of_neg (by simp [h])
  rw [dropEndWhile, dropEndWhile, hreverse, List.dropWhile_append, hkept]
  cases after.reverse.dropWhile drop <;> simp

end Text

end NotionProject
