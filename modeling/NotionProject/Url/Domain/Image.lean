import NotionProject.Text.Split
import NotionProject.Url.Domain.ImageTable

/-!
# Names of hosts: images of characters

What becomes of each character in the name of a host: it stands for itself, for other
characters, or for nothing, or no name has it. In ASCII it stands for its lower case.
-/

namespace NotionProject

namespace Domain

/-- Whether a character is in ASCII. -/
def isAscii (c : Char) : Bool :=
  c.toNat < 0x80

/-- The lower case of a character in ASCII is in ASCII. -/
theorem isAscii_toLower {c : Char} (h : isAscii c = true) : isAscii c.toLower = true := by
  simp only [isAscii, decide_eq_true_eq] at h ⊢
  have : ∀ n : Fin 128, (Char.ofNat n.val).toLower.toNat < 0x80 := by decide
  simpa using this ⟨c.toNat, h⟩

/-- The images of consecutive characters from a code point on. -/
def imageRows : List (Nat × List (List Char)) :=
  shortImages.map (fun (first, images) => (first, images.toList.map ([·]))) ++
    longImages.map fun (first, images) => (first, Text.splitAt '|' images.toList)

/-- The characters that a character outside ASCII stands for, if it does not stand for
itself. -/
def changed? (c : Char) : Option (List Char) :=
  if omittedRanges.has c then some []
  else
    match imageRuns.findSome? fun run => run.image? c.toNat with
    | some image => some [Char.ofNat image]
    | none =>
      imageRows.findSome? fun (first, images) =>
        if first ≤ c.toNat then images[c.toNat - first]? else none

/-- The characters that a character stands for. -/
def image? (c : Char) : Option (List Char) :=
  if isAscii c then some [c.toLower]
  else (changed? c).or (if keptRanges.has c then some [c] else none)

/-- Whether a character stands for itself. -/
def isKept (c : Char) : Bool :=
  image? c == some [c]

/-- The characters that a text stands for. -/
def images? (text : List Char) : Option (List Char) :=
  (text.mapM image?).map List.flatten

/-- A text in ASCII stands for its lower case. -/
theorem images?_of_ascii {text : List Char} (h : ∀ c ∈ text, isAscii c = true) :
    images? text = some (text.map Char.toLower) := by
  have hm : text.mapM image? = some (text.map fun c => [c.toLower]) := by
    induction text with
    | nil => rfl
    | cons c rest ih =>
      simp [List.mapM_cons, image?, h c, ih fun d hd => h d (List.mem_cons_of_mem _ hd)]
  have hf (text : List Char) : (text.map fun c => [c.toLower]).flatten = text.map Char.toLower := by
    induction text with
    | nil => rfl
    | cons c rest ih => simp [ih]
  simp [images?, hm, hf]

end Domain

end NotionProject
