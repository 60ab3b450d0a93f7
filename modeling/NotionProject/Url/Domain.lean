import NotionProject.Url.Domain.Punycode
import NotionProject.Url.Domain.Script

/-!
# Names of hosts

The name of a host is written in ASCII, in labels with points between them. A text stands for
a name after each of its characters has become what it stands for, and the whole is composed.
A label that then has characters outside ASCII is written in Punycode after `xn--`; a label
that comes so written has to be one that is written so. `toAscii?_of_ascii` says that for a
text in ASCII without such labels the name is its lower case.
-/

namespace NotionProject

/-- A label of a name: how it is written, and what it stands for. -/
structure DomainLabel where
  written : List Char
  meaning : List Char
deriving DecidableEq

namespace Domain

/-- What a label in Punycode starts with. -/
def encodedMark : List Char := "xn--".toList

/-- The length of the longest label outside ASCII. -/
def maxMeaning : Nat := 1000

/-- The length of the longest label in Punycode, after its mark. -/
def maxWritten : Nat := 2000

/-- Whether composed characters are a label by the rules of scripts. -/
def fitsScript (label : List Char) : Bool :=
  !label.head?.any isMark && joinersFit [] label

/-- The label that a label in Punycode stands for. -/
def decodeLabel? (label : List Char) : Option DomainLabel := do
  let written := label.drop encodedMark.length
  if maxWritten < written.length then none
  let meaning ← Punycode.decode? written
  if meaning.all isAscii || encodedMark.isPrefixOf meaning then none
  else if meaning.all isKept && composed meaning == meaning && fitsScript meaning then
    some ⟨label, meaning⟩
  else none

/-- The label of composed characters. -/
def label? (label : List Char) : Option DomainLabel :=
  if label.all isAscii then
    if encodedMark.isPrefixOf label then decodeLabel? label else some ⟨label, label⟩
  else if encodedMark.isPrefixOf label || maxMeaning < label.length then none
  else if fitsScript label then some ⟨encodedMark ++ Punycode.encode label, label⟩
  else none

/-- The name that a text stands for, written in ASCII. -/
def toAscii? (text : List Char) : Option (List Char) := do
  let images ← images? text
  let labels ← (Text.splitAt '.' (composed images)).mapM label?
  if labels.any (turns ·.meaning) && !labels.all (keepsDirection ·.meaning) then none
  else some (['.'].intercalate (labels.map (·.written)))

/-- The name that a text in ASCII stands for is its lower case, unless a label of it says that
it is in Punycode. -/
theorem toAscii?_of_ascii {text : List Char} (h : ∀ c ∈ text, isAscii c = true)
    (hmark : ∀ label ∈ Text.splitAt '.' (text.map Char.toLower),
      encodedMark.isPrefixOf label = false) :
    toAscii? text = some (text.map Char.toLower) := by
  have hlower : ∀ c ∈ text.map Char.toLower, isAscii c = true := by
    intro c hc
    obtain ⟨d, hd, rfl⟩ := List.mem_map.1 hc
    exact isAscii_toLower (h d hd)
  have hlabels : (Text.splitAt '.' (text.map Char.toLower)).mapM label? =
      some ((Text.splitAt '.' (text.map Char.toLower)).map fun label => ⟨label, label⟩) := by
    have hone : ∀ label ∈ Text.splitAt '.' (text.map Char.toLower),
        label? label = some ⟨label, label⟩ := by
      intro label hl
      have ha : label.all isAscii = true :=
        List.all_eq_true.2 fun c hc => hlower c (Text.mem_of_mem_splitAt hl hc)
      simp [label?, ha, hmark label hl]
    generalize Text.splitAt '.' (text.map Char.toLower) = labels at hone
    induction labels with
    | nil => rfl
    | cons label rest ih =>
      simp [List.mapM_cons, hone label List.mem_cons_self,
        ih fun l hl => hone l (List.mem_cons_of_mem _ hl)]
  have hturns : ((Text.splitAt '.' (text.map Char.toLower)).any fun label => turns label) =
      false := by
    simp only [List.any_eq_false]
    intro label hl
    simp [turns_of_ascii fun c hc => hlower c (Text.mem_of_mem_splitAt hl hc)]
  simp only [toAscii?, images?_of_ascii h, Option.bind_eq_bind, Option.bind_some,
    composed_of_ascii hlower, hlabels, List.any_map, Function.comp_def, hturns, Bool.false_and]
  simp [Function.comp_def, Text.intercalate_splitAt]

end Domain

end NotionProject
