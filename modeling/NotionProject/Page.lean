import NotionProject.Parent
import NotionProject.Property

/-!
# Pages

A page of the workspace. The records of a database are pages whose parent is the database.
-/

namespace NotionProject

/-- A page. -/
structure Page where
  id : Identifier
  parent : Option Parent
  properties : Properties
  archived : Bool
  url : Option String
  createdTime : Option Timestamp
  lastEditedTime : Option Timestamp

namespace Page

/-- The fields of a page. -/
def fields : Fields Page :=
  Page.mk <$> .required "id" Identifier.decode <*> .nullable "parent" Parent.decode <*>
    .optional "properties" [] Properties.decode <*> .optional "archived" false Decoder.bool <*>
    .nullable "url" Decoder.string <*> .nullable "created_time" Timestamp.decode <*>
    .nullable "last_edited_time" Timestamp.decode

/-- Reads a page. -/
def decode : Decoder Page :=
  fields.decode "Page"

/-- Writes a page; what is missing is null. -/
def toJson (page : Page) : Json :=
  .object
    [("id", page.id.toJson), ("parent", .orNull (page.parent.map Parent.toJson)),
      ("properties", page.properties.toJson), ("archived", .bool page.archived),
      ("url", .orNull (page.url.map .string)),
      ("created_time", .orNull (page.createdTime.map Timestamp.toJson)),
      ("last_edited_time", .orNull (page.lastEditedTime.map Timestamp.toJson))]

/-- The text of a title property. -/
def titleOf? : PropertyValue → Option String
  | .typed (.title segments) => some (RichText.plainOf segments)
  | _ => none

/-- The text of the first title property, if the page has one. -/
def title? (page : Page) : Option String :=
  page.properties.findSome? fun member => titleOf? member.2

end Page

end NotionProject
