import NotionProject.Validation

/-!
# API keys

An `ApiKey` is a token of an integration. Only its first ten characters are ever shown.
-/

namespace NotionProject

namespace ApiKey

/-- Why a text is not accepted as a key. -/
inductive ParseError where
  | empty
  | unmarked
  | tooShort
deriving DecidableEq

/-- What is wrong with the text. -/
def ParseError.reason : ParseError → String
  | empty => "API key cannot be empty"
  | unmarked => "API key must start with 'secret_' or 'ntn_'"
  | tooShort => "API key is too short"

/-- The refusal of the text. -/
def ParseError.refusal (error : ParseError) : ValidationError :=
  .apiKey error.reason

/-- The marks that a key begins with. -/
def marks : List String := ["secret_", "ntn_"]

/-- How many octets a key has at least. -/
def leastOctets : Nat := 20

/-- The first thing that is wrong with a text as a key. -/
def fault? (text : String) : Option ParseError :=
  if text.toList.isEmpty then some .empty
  else if !marks.any fun mark => mark.toList.isPrefixOf text.toList then some .unmarked
  else if text.utf8ByteSize < leastOctets then some .tooShort
  else none

end ApiKey

/-- A token that a request is signed with. -/
structure ApiKey where
  text : String
  accepted : ApiKey.fault? text = none
deriving DecidableEq

namespace ApiKey

/-- The key with the given text. -/
def parse (text : String) : Except ParseError ApiKey :=
  match h : fault? text with
  | none => .ok ⟨text, h⟩
  | some error => .error error

/-- How many characters of a key may be shown. -/
def shownLength : Nat := 10

/-- The key as it may be shown. -/
def redacted (key : ApiKey) : String :=
  String.ofList (key.text.toList.take shownLength) ++ "..."

/-- The key as it appears in a description of a larger value. -/
def description (key : ApiKey) : String :=
  "ApiKey(" ++ key.redacted ++ ")"

/-- Whether a character may not stand in a header field: a control character other than the
tab. -/
def isHeaderControl (c : Char) : Bool :=
  (c.toNat < 32 && c != '\t') || c.toNat == 127

/-- Whether the key can be sent in a header field. -/
def fitsHeader (key : ApiKey) : Bool :=
  !key.text.toList.any isHeaderControl

end ApiKey

end NotionProject
