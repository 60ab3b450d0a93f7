import NotionProject.Decode.Plain
import NotionProject.Decode.Tagged

/-!
# Parents

Where a page or a database lives: in a page, in a database, in a block or in the workspace.
-/

namespace NotionProject

/-- Where a page or a database lives. -/
inductive Parent where
  | page (id : Identifier)
  | database (id : Identifier)
  | block (id : Identifier)
  | workspace (isIn : Bool)
deriving DecidableEq

namespace Parent

/-- The kinds of parents. -/
def union : Union Parent where
  name := "Parent"
  byNumber := false
  variants :=
    [⟨"page_id", "PageId", page <$> .required "page_id" Identifier.decode⟩,
      ⟨"database_id", "DatabaseId", database <$> .required "database_id" Identifier.decode⟩,
      ⟨"block_id", "BlockId", block <$> .required "block_id" Identifier.decode⟩,
      ⟨"workspace", "Workspace", workspace <$> .required "workspace" Decoder.bool⟩]

/-- Reads a parent. -/
def decode : Decoder Parent :=
  union.decode

/-- A parent of a kind: the tag, then the field of the same name. -/
def tagged (tag : String) (value : Json) : Json :=
  .object [("type", .string tag), (tag, value)]

/-- Writes a parent. -/
def toJson : Parent → Json
  | page id => tagged "page_id" id.toJson
  | database id => tagged "database_id" id.toJson
  | block id => tagged "block_id" id.toJson
  | workspace isIn => tagged "workspace" (.bool isIn)

end Parent

end NotionProject
