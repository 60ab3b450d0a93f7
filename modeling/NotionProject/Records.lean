import NotionProject.Project

/-!
# Writing and querying

Pages and databases are created and changed, and the records of a database are listed.
Properties that the server assigns are left out of all that is written.
-/

namespace NotionProject

/-- What is asked of the records of a database: a filter and an order, and whether archived
records are asked for or live ones. -/
structure QueryOptions where
  filter : Option Json
  sorts : List Json
  archived : Bool

namespace Project

/-! ## Writing -/

/-- Leaves out what may not be written, with a line in the log for each. -/
def writable (properties : Properties) : Call Properties := do
  Call.logAll .debug (properties.unwritable.map fun name =>
    "Dropping unique_id property '" ++ name ++ "' from write")
  pure properties.writable

/-- Creates a page below another one, which has to exist. -/
def createPage (project : Project) (parent : Identifier) (title : String) :
    Call Identifier := do
  if ← project.pageExists parent then
    let page ← project.client.perform
      (Endpoint.createPage ⟨.page parent, [("title", PropertyValue.title title)]⟩)
    Call.log .info ("Created page '" ++ title ++ "' (" ++ page.id.text ++ ") under " ++
      parent.text)
    pure page.id
  else Call.fail (.parentNotFound parent.text)

/-- Creates a database below a page, of which it is not asked whether it exists. -/
def createDatabase (project : Project) (parent : Identifier) (title : String)
    (schema : Schema) : Call Identifier := do
  let database ← project.client.perform
    (Endpoint.createDatabase ⟨.page parent, [RichText.ofText title], schema⟩)
  Call.log .info ("Created database '" ++ title ++ "' (" ++ database.id.text ++ ") under " ++
    parent.text)
  pure database.id

/-- A database by its identifier. -/
def database (project : Project) (id : Identifier) : Call Database :=
  project.client.perform (Endpoint.database id)

/-- Adds a record to a database, or below another parent. -/
def createRecord (project : Project) (database : Identifier) (properties : Properties)
    (parent : Option Parent) : Call Page := do
  let properties ← writable properties
  let page ← project.client.perform
    (Endpoint.createPage ⟨parent.getD (.database database), properties⟩)
  Call.log .info ("Created record " ++ page.id.text ++ " in database " ++ database.text)
  pure page

/-- Properties that are to be sent: none, if none were given. -/
def givenProperties : Option Properties → Call (Option Properties)
  | none => pure none
  | some [] => pure none
  | some properties => do
    let properties ← writable properties
    pure (some properties)

/-- Changes a page: its properties, if any are given, and its being archived, if that is
asked for. -/
def updatePage (project : Project) (id : Identifier) (properties : Option Properties)
    (archived : Bool) : Call Page := do
  let properties ← givenProperties properties
  let page ← project.client.perform
    (Endpoint.updatePage id ⟨properties, if archived then some true else none⟩)
  Call.log .debug ("Updated page " ++ page.id.text ++ " (archived: " ++ toString page.archived ++
    ")")
  pure page

/-! ## Querying -/

/-- What is asked for the part of the records at a cursor. -/
def partQuery (options : QueryOptions) (cursor : Option String) : DatabaseQuery :=
  ⟨options.filter, options.sorts, cursor⟩

/-- The archived or the live records that match, of all parts. -/
def queryDatabase (project : Project) (id : Identifier) (options : QueryOptions) :
    Call (List Page) := do
  let walk ← Walk.all project.client fun cursor => Endpoint.query id (partQuery options cursor)
  let records := walk.items.filter fun page => page.archived == options.archived
  Call.log .debug ("Query of " ++ id.text ++ " returned " ++ toString records.length ++ " of " ++
    toString walk.items.length ++ " records (archived: " ++ toString options.archived ++ ")")
  pure records

end Project

end NotionProject
