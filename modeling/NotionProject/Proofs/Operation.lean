import NotionProject.Finding
import NotionProject.Records

/-!
# Operations

The calls of a project as data: an `Operation` names a call with its arguments, and
`Operation.call` makes it. What holds of every call is stated of operations.
-/

namespace NotionProject

/-- A call of a project with its arguments. -/
inductive Operation where
  | findOnly (kind : Kind) (parent : Identifier) (title : String)
  | findAll (kind : Kind) (parent : Identifier) (title : String)
  | sectionPage (part : Section)
  | lookupPage (id : Identifier)
  | pageExists (id : Identifier)
  | hasStructure (id : Identifier)
  | createPage (parent : Identifier) (title : String)
  | createDatabase (parent : Identifier) (title : String) (schema : Schema)
  | database (id : Identifier)
  | createRecord (database : Identifier) (properties : Properties) (parent : Option Parent)
  | updatePage (id : Identifier) (properties : Option Properties) (archived : Bool)
  | queryDatabase (id : Identifier) (options : QueryOptions)
  | children (parent : Identifier) (cursor : Option String)

namespace Operation

/-- The type of the result. -/
def Result : Operation → Type
  | findOnly .. => Identifier
  | findAll .. => List Identifier
  | sectionPage _ => Identifier
  | lookupPage _ => PageLookup
  | pageExists _ => Bool
  | hasStructure _ => Bool
  | createPage .. => Identifier
  | createDatabase .. => Identifier
  | database _ => Database
  | createRecord .. => Page
  | updatePage .. => Page
  | queryDatabase .. => List Page
  | children .. => Listing Block

/-- The call of a project. -/
def call (project : Project) : (operation : Operation) → Call operation.Result
  | findOnly kind parent title => project.findOnly kind parent title
  | findAll kind parent title => project.findAll kind parent title
  | sectionPage part => project.sectionPage part
  | lookupPage id => project.lookupPage id
  | pageExists id => project.pageExists id
  | hasStructure id => project.hasStructure id
  | createPage parent title => project.createPage parent title
  | createDatabase parent title schema => project.createDatabase parent title schema
  | database id => project.database id
  | createRecord id properties parent => project.createRecord id properties parent
  | updatePage id properties archived => project.updatePage id properties archived
  | queryDatabase id options => project.queryDatabase id options
  | children parent cursor => project.client.perform (Endpoint.children parent cursor)

/-- What an operation comes to if the answer to its request of the given number, counted from
one, is a failure. Where a page is looked up, or is only to be there, the failure tells that
it is missing; every other failure is passed on as it is. -/
def afterFailure : (operation : Operation) → Nat → Failure → Except Failure operation.Result
  | lookupPage _, _, failure =>
    if failure.isNotFound then .ok PageLookup.missing else .error failure
  | pageExists _, _, _ => .ok false
  | hasStructure _, _, _ => .ok false
  | createPage parent _, number, failure =>
    .error (if number = 1 then .parentNotFound parent.text else failure)
  | _, _, failure => .error failure

end Operation

end NotionProject
