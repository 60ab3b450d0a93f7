import NotionProject.Decode.Basic

/-!
# Schemas

A schema names the properties of a database that is to be created and specifies each. A
name keeps the place of its first use and has the specification given last.
-/

namespace NotionProject

/-- The specifications of properties by their names, in order. -/
structure Schema where
  specs : Members Json

/-- What a column may be asked to be. -/
inductive ColumnSpec where
  | title
  | richText
  | number
  | checkbox
  | url
  | select (options : List String)
  | uniqueId (label : Option String)
  | given (spec : Json)

/-- The specification as it is sent. -/
def ColumnSpec.toJson : ColumnSpec → Json
  | title => .object [("title", .object [])]
  | richText => .object [("rich_text", .object [])]
  | number => .object [("number", .object [("format", .string "number")])]
  | checkbox => .object [("checkbox", .object [])]
  | url => .object [("url", .object [])]
  | select options =>
    .object
      [("select",
        .object [("options", .array (options.map fun name => .object [("name", .string name)]))])]
  | uniqueId label => .object [("unique_id", .object [("prefix", .orNull (label.map .string))])]
  | given spec => spec

namespace Schema

/-- The schema of no property. -/
def empty : Schema := ⟨[]⟩

/-- The schema with a specification under a name. -/
def put (schema : Schema) (name : String) (spec : ColumnSpec) : Schema :=
  ⟨schema.specs.put name spec.toJson⟩

/-- The schema of specifications given one after the other. -/
def build (columns : List (String × ColumnSpec)) : Schema :=
  columns.foldl (fun schema column => schema.put column.1 column.2) empty

/-- How many properties the schema names. -/
def size (schema : Schema) : Nat :=
  schema.specs.length

/-- Whether the schema names no property. -/
def isEmpty (schema : Schema) : Bool :=
  schema.specs.isEmpty

/-- The specification under a name. -/
def get? (schema : Schema) (name : String) : Option Json :=
  schema.specs.find? name

/-- Reads a schema. -/
def decode : Decoder Schema := fun source =>
  (Decoder.map Decoder.json source).map Schema.mk

/-- Writes a schema. -/
def toJson (schema : Schema) : Json :=
  .object schema.specs

end Schema

end NotionProject
