import NotionProject.Database
import NotionProject.Exchange
import NotionProject.Listing
import NotionProject.Page
import NotionProject.Schema

/-!
# Endpoints

The exchanges of the API that are in use, one for each endpoint, and one for any endpoint
whose answer is taken as it comes.
-/

namespace NotionProject

/-- A page that is to be created. -/
structure NewPage where
  parent : Parent
  properties : Properties

/-- A database that is to be created. -/
structure NewDatabase where
  parent : Parent
  title : List RichText
  properties : Schema

/-- What changes in a page; what is missing stays as it is. -/
structure PageUpdate where
  properties : Option Properties
  archived : Option Bool

/-- What is asked of a database: a filter and an order, both passed on as they are, and
where to go on. -/
structure DatabaseQuery where
  filter : Option Json
  sorts : List Json
  startCursor : Option String

/-- How many results a part of a list has at most. -/
def pageSize : Nat := 100

/-- The body of a request for a page. -/
def NewPage.toJson (page : NewPage) : Json :=
  .object [("parent", page.parent.toJson), ("properties", page.properties.toJson)]

/-- The body of a request for a database. -/
def NewDatabase.toJson (database : NewDatabase) : Json :=
  .object
    [("parent", database.parent.toJson), ("title", RichText.listToJson database.title),
      ("properties", database.properties.toJson)]

/-- The body of a request for a change. -/
def PageUpdate.toJson (update : PageUpdate) : Json :=
  .ofFields
    [("properties", update.properties.map Properties.toJson),
      ("archived", update.archived.map .bool)]

/-- The body of a query. -/
def DatabaseQuery.toJson (query : DatabaseQuery) : Json :=
  .ofFields
    [("page_size", some (.int pageSize)), ("filter", query.filter),
      ("sorts", if query.sorts.isEmpty then none else some (.array query.sorts)),
      ("start_cursor", query.startCursor.map .string)]

namespace Endpoint

variable {α : Type}

/-- A request that reads. -/
def get (endpoint : String) (query : Form) (decode : Decoder α) : Exchange α :=
  ⟨.get, endpoint, query, none, Answer.read decode⟩

/-- A request that writes or asks with a body. -/
def send (method : Method) (endpoint : String) (body : Json) (decode : Decoder α) : Exchange α :=
  ⟨method, endpoint, [], some body, Answer.read decode⟩

/-- A page by its identifier. -/
def page (id : Identifier) : Exchange Page :=
  get ("pages/" ++ id.hyphenated) [] Page.decode

/-- A database by its identifier. -/
def database (id : Identifier) : Exchange Database :=
  get ("databases/" ++ id.hyphenated) [] Database.decode

/-- The query of a list: how much at once, and where to go on. -/
def listQuery (cursor : Option String) : Form :=
  ("page_size", toString pageSize) ::
    (match cursor with
      | none => []
      | some cursor => [("start_cursor", cursor)])

/-- A part of the children of a page. -/
def children (parent : Identifier) (cursor : Option String) : Exchange (Listing Block) :=
  get ("blocks/" ++ parent.hyphenated ++ "/children") (listQuery cursor)
    (Listing.decode Block.decode)

/-- Creates a page. -/
def createPage (page : NewPage) : Exchange Page :=
  send .post "pages" page.toJson Page.decode

/-- Creates a database. -/
def createDatabase (database : NewDatabase) : Exchange Database :=
  send .post "databases" database.toJson Database.decode

/-- Changes a page. -/
def updatePage (id : Identifier) (update : PageUpdate) : Exchange Page :=
  send .patch ("pages/" ++ id.hyphenated) update.toJson Page.decode

/-- A part of the records of a database. -/
def query (id : Identifier) (query : DatabaseQuery) : Exchange (Listing Page) :=
  send .post ("databases/" ++ id.hyphenated ++ "/query") query.toJson (Listing.decode Page.decode)

/-- Any endpoint, with an answer of any status. Only a request that reads has a query, and
only one that does not has a body. -/
def raw (method : Method) (endpoint : String) (query : Form) (body : Json) : Exchange Answer :=
  match method with
  | .get => ⟨.get, endpoint, query, none, pure⟩
  | method => ⟨method, endpoint, [], some body, pure⟩

end Endpoint

end NotionProject
