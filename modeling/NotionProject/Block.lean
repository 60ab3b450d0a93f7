import NotionProject.Decode.Plain
import NotionProject.Decode.Record

/-!
# Blocks

The children of a page are blocks. A block of type `child_page` or `child_database` stands
for a page or a database below it and carries a title; of all other blocks only the type is
known.
-/

namespace NotionProject

/-- The kinds of resources that have a title by which they can be found. -/
inductive Kind where
  | page
  | database
deriving DecidableEq

/-- The name of the kind. -/
def Kind.name : Kind → String
  | page => "page"
  | database => "database"

/-- The title that a block carries. -/
structure ChildTitle where
  title : String
deriving DecidableEq

/-- A child of a page. -/
structure Block where
  id : Identifier
  type : String
  childPage : Option ChildTitle
  childDatabase : Option ChildTitle
deriving DecidableEq

namespace ChildTitle

/-- The fields of a title. -/
def fields : Fields ChildTitle :=
  ChildTitle.mk <$> .optional "title" "" Decoder.string

/-- Reads a title. -/
def decode : Decoder ChildTitle :=
  fields.decode "ChildTitle"

/-- Writes a title. -/
def toJson (title : ChildTitle) : Json :=
  .object [("title", .string title.title)]

end ChildTitle

namespace Block

/-- The type of the blocks of a kind. -/
def typeOf : Kind → String
  | .page => "child_page"
  | .database => "child_database"

/-- The block that stands for a page. -/
def ofPage (id : Identifier) (title : String) : Block :=
  ⟨id, typeOf .page, some ⟨title⟩, none⟩

/-- The block that stands for a database. -/
def ofDatabase (id : Identifier) (title : String) : Block :=
  ⟨id, typeOf .database, none, some ⟨title⟩⟩

/-- The fields of a block. -/
def fields : Fields Block :=
  Block.mk <$> .required "id" Identifier.decode <*> .required "type" Decoder.string <*>
    .nullable "child_page" ChildTitle.decode <*> .nullable "child_database" ChildTitle.decode

/-- Reads a block. -/
def decode : Decoder Block :=
  fields.decode "ChildBlock"

/-- Writes a block. -/
def toJson (block : Block) : Json :=
  .ofFields
    [("id", some block.id.toJson), ("type", some (.string block.type)),
      ("child_page", block.childPage.map ChildTitle.toJson),
      ("child_database", block.childDatabase.map ChildTitle.toJson)]

/-- The kind of resource that the block stands for. -/
def kind? (block : Block) : Option Kind :=
  if block.type = typeOf .page then some .page
  else if block.type = typeOf .database then some .database
  else none

/-- The title of the page that the block carries. -/
def pageTitle? (block : Block) : Option String :=
  block.childPage.map ChildTitle.title

end Block

end NotionProject
