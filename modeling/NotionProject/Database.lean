import NotionProject.Parent
import NotionProject.RichText

/-!
# Databases

A database with its title and the specifications of its properties, which are kept without
being understood.
-/

namespace NotionProject

/-- A database. -/
structure Database where
  id : Identifier
  title : List RichText
  parent : Option Parent
  properties : Members Json
  archived : Bool
  url : Option String

namespace Database

/-- The fields of a database. -/
def fields : Fields Database :=
  Database.mk <$> .required "id" Identifier.decode <*>
    .optional "title" [] RichText.decodeList <*> .nullable "parent" Parent.decode <*>
    .optional "properties" [] (Decoder.map Decoder.json) <*>
    .optional "archived" false Decoder.bool <*> .nullable "url" Decoder.string

/-- Reads a database. -/
def decode : Decoder Database :=
  fields.decode "Database"

/-- Writes a database; what is missing is null. -/
def toJson (database : Database) : Json :=
  .object
    [("id", database.id.toJson), ("title", RichText.listToJson database.title),
      ("parent", .orNull (database.parent.map Parent.toJson)),
      ("properties", .object database.properties), ("archived", .bool database.archived),
      ("url", .orNull (database.url.map .string))]

/-- The visible text of the title. -/
def titleText (database : Database) : String :=
  RichText.plainOf database.title

end Database

end NotionProject
