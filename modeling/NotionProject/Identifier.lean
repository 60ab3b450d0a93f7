import NotionProject.Text.Blank
import NotionProject.Text.Hex
import NotionProject.Validation

/-!
# Identifiers

An `Identifier` names a page, a database or a block. Its one form is that of thirty-two
lower case digits in base sixteen. `Identifier.parse` accepts more: the digits in groups
divided by hyphens, such groups in braces or as a URN, and the URL of a page, which holds
its identifier after a slash or a hyphen and before the end of a path segment.
-/

namespace NotionProject

/-- The identifier of a page, a database or a block. -/
structure Identifier where
  digits : List Char
  length_digits : digits.length = 32
  isHex_digits : ∀ c ∈ digits, isLowerHexDigit c = true
deriving DecidableEq

namespace Identifier

/-- The text of the identifier. -/
def text (id : Identifier) : String :=
  String.ofList id.digits

/-- The identifier in groups divided by hyphens, the form of API paths. -/
def hyphenated (id : Identifier) : String :=
  String.ofList <|
    (id.digits.take 8) ++ '-' :: ((id.digits.drop 8).take 4) ++
      '-' :: ((id.digits.drop 12).take 4) ++ '-' :: ((id.digits.drop 16).take 4) ++
      '-' :: (id.digits.drop 20)

/-- The identifier with the given digits, of either case. -/
def ofHex (digits : List Char) (h : digits.length = 32 ∧ ∀ c ∈ digits, isHexDigit c = true) :
    Identifier where
  digits := digits.map Char.toLower
  length_digits := by simp [h.1]
  isHex_digits := by
    intro c hc
    obtain ⟨d, hd, rfl⟩ := List.mem_map.1 hc
    exact isLowerHexDigit_toLower (h.2 d hd)

/-- A digit below sixteen. -/
def lowerDigit (n : Fin 16) : Char :=
  Nat.digitChar n

theorem isLowerHexDigit_lowerDigit (n : Fin 16) : isLowerHexDigit (lowerDigit n) = true := by
  revert n
  decide

/-- The identifier made of random bits: thirty-two digits, of which the thirteenth names the
version of such identifiers, 4, and the seventeenth their variant. -/
def ofRandom (bits : Nat) : Identifier where
  digits := (List.range 32).map fun i =>
    let digit := bits / Nat.pow 16 i
    lowerDigit (if i = 12 then 4 else if i = 16 then Fin.ofNat 16 (8 + digit % 4) else
      Fin.ofNat 16 digit)
  length_digits := by simp
  isHex_digits := by
    intro c hc
    obtain ⟨i, -, rfl⟩ := List.mem_map.1 hc
    exact isLowerHexDigit_lowerDigit _

/-! ## Reading -/

/-- Why a text names nothing: it has none of the accepted forms, or it is a URL without an
identifier in it. -/
inductive ParseError where
  | unreadable (text : String)
  | notInUrl (url : String)
deriving DecidableEq

/-- The refusal of the text. -/
def ParseError.refusal : ParseError → ValidationError
  | unreadable text => .id ("Could not parse Notion ID from: " ++ text)
  | notInUrl url => .id ("No valid ID found in URL: " ++ url)

/-- The lengths of the groups between hyphens. -/
def groupLengths : List Nat := [8, 4, 4, 4, 12]

/-- The digits of an identifier in groups at the start of a text. -/
def takeHyphenated (text : List Char) : Option (List Char × List Char) :=
  Text.takeGroups groupLengths text

/-- The digits of an identifier at the start of a text. -/
def takeBare (text : List Char) : Option (List Char × List Char) :=
  Text.takeHex 32 text

/-- The text between braces. -/
def unbraced? : List Char → Option (List Char)
  | '\x7b' :: text => if text.getLast? = some '\x7d' then some text.dropLast else none
  | _ => none

/-- The text after the mark of a URN, which may be in letters of either case. -/
def afterUrn? (text : List Char) : Option (List Char) :=
  if (text.take 9).map Char.toLower = "urn:uuid:".toList then some (text.drop 9) else none

/-- The digits of a text that is one identifier. -/
def standalone? (text : List Char) : Option (List Char) :=
  (Text.takeAll takeBare text).or <|
    (Text.takeAll takeHyphenated text).or <|
      ((unbraced? text).bind (Text.takeAll takeHyphenated)).or <|
        (afterUrn? text).bind (Text.takeAll takeHyphenated)

/-- Whether a path segment ends where the text starts. -/
def endsSegment : List Char → Bool
  | [] => true
  | c :: _ => c == '/' || c == '?' || c == '#'

/-- The digits of the identifier at the start of a text, if a path segment ends after it. -/
def atSegmentEnd? (text : List Char) : Option (List Char) :=
  let closed (found : Option (List Char × List Char)) : Option (List Char) :=
    found.bind fun f => if endsSegment f.2 then some f.1 else none
  (closed (takeBare text)).or (closed (takeHyphenated text))

/-- The digits of the first identifier in a URL that follows a slash or a hyphen and ends
its path segment. -/
def inUrl? : List Char → Option (List Char)
  | [] => none
  | c :: rest =>
    if c = '/' ∨ c = '-' then (atSegmentEnd? rest).or (inUrl? rest) else inUrl? rest

/-- Whether a word occurs in a text. -/
def mentions (word : List Char) : List Char → Bool
  | [] => word.isEmpty
  | c :: rest => word.isPrefixOf (c :: rest) || mentions word rest

/-- The text that is looked at: without white space around it and without slashes at its
end. -/
def cleaned (text : List Char) : List Char :=
  Text.dropEndWhile (· == '/') (Text.trim text)

/-- Thirty-two digits as an identifier. -/
def ofDigits? (digits : List Char) : Option Identifier :=
  if h : digits.length = 32 ∧ digits.all isHexDigit = true then
    some (ofHex digits ⟨h.1, List.all_eq_true.1 h.2⟩)
  else none

/-- The identifier that a text names. -/
def parse (text : String) : Except ParseError Identifier :=
  let cleaned := cleaned text.toList
  match (standalone? cleaned).bind ofDigits? with
  | some id => .ok id
  | none =>
    if mentions "notion".toList cleaned then
      match (inUrl? cleaned).bind ofDigits? with
      | some id => .ok id
      | none => .error (.notInUrl (String.ofList cleaned))
    else .error (.unreadable text)

end Identifier

end NotionProject
