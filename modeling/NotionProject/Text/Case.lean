import NotionProject.Text.CaseTable

/-!
# Lowercase text

`lowercase` maps every character by itself (`lowerChar`), save for the capital sigma, whose form
depends on its neighbours: at the end of a word it becomes the final sigma (`lowerSigma`).
-/

namespace NotionProject

/-- The lowercase form of one character, alone. Only the capital I with a dot above becomes
two characters. -/
def lowerChar (c : Char) : List Char :=
  if c.toNat = 0x130 then ['i', '\u0307']
  else
    match caseRuns.findSome? fun run => run.image? c.toNat with
    | some image => [Char.ofNat image]
    | none => [c]

/-- Whether the first character that is not case-ignorable is cased. -/
def startsCased (text : List Char) : Bool :=
  match text.dropWhile caseIgnorableRanges.has with
  | [] => false
  | c :: _ => casedRanges.has c

/-- The lowercase form of a capital sigma between the text before it, last character first,
and the text after it. -/
def lowerSigma (before after : List Char) : Char :=
  if startsCased before && !startsCased after then 'ς' else 'σ'

/-- The lowercase form of a text that follows `before`, given last character first. -/
def lowerAfter (before : List Char) : List Char → List Char
  | [] => []
  | c :: rest =>
    (if c = 'Σ' then [lowerSigma before rest] else lowerChar c) ++ lowerAfter (c :: before) rest

/-- The lowercase form of a text. -/
def lowercase (text : String) : String :=
  String.ofList (lowerAfter [] text.toList)

end NotionProject
