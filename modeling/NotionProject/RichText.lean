import NotionProject.Decode.Record

/-!
# Rich text

A text is a list of segments. A segment knows its plain text or the text that was written,
and keeps what else it carries, such as annotations, without understanding it.
-/

namespace NotionProject

/-- The text of a segment as it was written. -/
structure TextContent where
  content : String
  link : Option Json

/-- A segment of a text. -/
structure RichText where
  kind : Option String
  text : Option TextContent
  plainText : Option String
  rest : List (String × Json)

namespace TextContent

/-- The fields of the text of a segment. -/
def fields : Fields TextContent :=
  TextContent.mk <$> .required "content" Decoder.string <*> .nullable "link" Decoder.json

/-- Reads the text of a segment. -/
def decode : Decoder TextContent :=
  fields.decode "TextContent"

/-- Writes the text of a segment. -/
def toJson (text : TextContent) : Json :=
  .ofFields [("content", some (.string text.content)), ("link", text.link)]

end TextContent

namespace RichText

/-- A segment of plain text, as it is written. -/
def ofText (content : String) : RichText where
  kind := some "text"
  text := some ⟨content, none⟩
  plainText := none
  rest := []

/-- The visible text of a segment: its plain text if it has one, else what was written. -/
def plain (segment : RichText) : String :=
  (segment.plainText.or (segment.text.map TextContent.content)).getD ""

/-- The visible text of segments. -/
def plainOf (segments : List RichText) : String :=
  String.join (segments.map plain)

/-- The known fields of a segment. -/
def fields : Fields (List (String × Json) → RichText) :=
  RichText.mk <$> .nullable "type" Decoder.string <*> .nullable "text" TextContent.decode <*>
    .nullable "plain_text" Decoder.string

/-- Reads a segment. -/
def decode : Decoder RichText :=
  fields.decodeOpen "RichText"

/-- Writes a segment: the known fields, then the rest. -/
def toJson (segment : RichText) : Json :=
  .ofFields <|
    [("type", segment.kind.map .string), ("text", segment.text.map TextContent.toJson),
      ("plain_text", segment.plainText.map .string)] ++
    segment.rest.map fun member => (member.1, some member.2)

/-- Reads segments. -/
def decodeList : Decoder (List RichText) :=
  Decoder.list decode

/-- Writes segments. -/
def listToJson (segments : List RichText) : Json :=
  .array (segments.map toJson)

end RichText

end NotionProject
