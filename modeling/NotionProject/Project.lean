import NotionProject.Section
import NotionProject.Walk

/-!
# Projects

A project is a page and what is below it, together with the client to reach them. Here are
the questions about single pages: whether there is one with an identifier, and whether a
page has the structure of a project.
-/

namespace NotionProject

/-- A project by its root page, and the client to reach it. -/
structure Project where
  root : Identifier
  client : Client

/-- What is found under an identifier. -/
inductive PageLookup where
  | found (page : Page)
  | missing

namespace Project

/-- How a project appears in a description. -/
def description (project : Project) : String :=
  "NotionBackend(root_page_id=" ++ project.root.text ++ ")"

/-- The project of a configuration. -/
def ofConfig (config : Config) : Except Failure Project := do
  let client ← Client.ofConfig config
  pure ⟨config.root, client⟩

/-- The project of a configuration, with a line in the log. -/
def connect (config : Config) : Call Project := do
  let project ← Call.ofExcept (ofConfig config)
  Call.log .debug ("Connecting to " ++ config.baseUrl.text ++ " with key " ++
    config.key.redacted ++ " (root " ++ config.root.text ++ ")")
  pure project

/-! ## Single pages -/

/-- The page with an identifier, or that there is none. Any other failure is one. -/
def lookupPage (project : Project) (id : Identifier) : Call PageLookup := do
  match ← (project.client.perform (Endpoint.page id)).attempt with
  | .ok page => pure (.found page)
  | .error failure => if failure.isNotFound then pure .missing else Call.fail failure

/-- Whether the page with an identifier can be read. Every failure counts as a no. -/
def pageExists (project : Project) (id : Identifier) : Call Bool := do
  match ← (project.client.perform (Endpoint.page id)).attempt with
  | .ok _ => pure true
  | .error failure =>
    if failure.isNotFound then
      Call.log .debug ("Page " ++ id.text ++ " does not exist")
      pure false
    else
      Call.log .warn ("Page " ++ id.text ++ " treated as missing: " ++ failure.message)
      pure false

/-! ## Structure -/

/-- The titles of the sections that none of the blocks is a page for. -/
def missingSections (blocks : List Block) : List String :=
  (Section.all.map Section.title).filter fun title =>
    !(blocks.filterMap Block.pageTitle?).contains title

/-- Whether a page exists and has a page for every section among its first children. -/
def hasStructure (project : Project) (id : Identifier) : Call Bool := do
  if ← project.pageExists id then
    match ← (project.client.perform (Endpoint.children id none)).attempt with
    | .error failure =>
      Call.log .warn ("Could not list children of " ++ id.text ++ ": " ++ failure.message)
      pure false
    | .ok listing =>
      let missing := missingSections listing.results
      if missing.isEmpty then pure true
      else
        Call.log .warn ("Project root " ++ id.text ++ " is missing section(s): " ++
          ", ".intercalate missing)
        pure false
  else
    Call.log .warn ("Project root " ++ id.text ++ " does not exist")
    pure false

end Project

end NotionProject
