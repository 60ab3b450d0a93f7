import NotionProject.Url.Basic

/-!
# Forms in a query

A list of pairs as a query: `name=value` with ampersands between. Letters, digits and
`*-._` stand for themselves, a plus sign for a space, and all else is percent-encoded.
`Form.decode` reads such a query, and `Url.withForm` adds one to a URL.
-/

namespace NotionProject

/-- Pairs of a name and a value. -/
abbrev Form := List (String × String)

namespace Form

/-- A character that stands for itself. -/
def isKept (c : Char) : Bool :=
  c.isAlphanum || c == '*' || c == '-' || c == '.' || c == '_'

/-- A character as it stands in a name or a value. -/
def encodeChar (c : Char) : List Char :=
  if c = ' ' then ['+'] else if isKept c then [c] else Percent.char c

/-- A name or a value. -/
def encodePart (text : String) : List Char :=
  text.toList.flatMap encodeChar

/-- A pair. -/
def encodePair (pair : String × String) : List Char :=
  encodePart pair.1 ++ '=' :: encodePart pair.2

/-- The pairs as a query. -/
def encode (form : Form) : List Char :=
  ['&'].intercalate (form.map encodePair)

/-- The text of a name or a value. -/
def decodePart (part : List Char) : String :=
  decodeOctets (Percent.decode (part.map fun c => if c = '+' then ' ' else c))

/-- The pair of a part of a query; without an equals sign it is a name alone. -/
def decodePair (part : List Char) : String × String :=
  (decodePart (part.takeWhile (· != '=')), decodePart ((part.dropWhile (· != '=')).drop 1))

/-- The pairs of a query. -/
def decode (query : List Char) : Form :=
  ((Text.splitAt '&' query).filter (!·.isEmpty)).map decodePair

end Form

/-- The URL with the pairs of a form added to its query. A query that is empty thereafter
is dropped. -/
def Url.withForm (url : Url) (form : Form) : Url :=
  let old := url.query.getD []
  let new := Form.encode form
  let query := if old.isEmpty then new else if form.isEmpty then old else old ++ '&' :: new
  { url with query := if query.isEmpty then none else some query }

end NotionProject
