import NotionProject.Decode.Basic
import NotionProject.Identifier
import NotionProject.Timestamp
import NotionProject.Url.Parser

/-!
# Texts with a meaning in JSON

Identifiers, URLs and timestamps are JSON strings. They are read from any of their forms
and written in one.
-/

namespace NotionProject

namespace Identifier

/-- Reads an identifier from any of its forms. -/
def decode : Decoder Identifier := fun source => do
  let text ← Decoder.string source
  match parse text with
  | .ok id => pure id
  | .error error => .error (.refused error.refusal)

/-- Writes the identifier. -/
def toJson (id : Identifier) : Json :=
  .string id.text

end Identifier

namespace Url

/-- Reads a URL. -/
def decode : Decoder Url := fun source => do
  let text ← Decoder.string source
  match parse text with
  | .ok url => pure url
  | .error error => .error (.refused (refusal text error))

/-- Writes the URL. -/
def toJson (url : Url) : Json :=
  .string url.text

end Url

namespace Timestamp

/-- Reads a timestamp. -/
def decode : Decoder Timestamp
  | .string s => do
    let text ← ofTextError s
    match parse text with
    | .ok t => pure t
    | .error error => .error (.time error)
  | source => .error (Decoder.mismatch "an RFC 3339 formatted date and time string" source)

/-- Writes the timestamp. -/
def toJson (t : Timestamp) : Json :=
  .string t.text

end Timestamp

end NotionProject
