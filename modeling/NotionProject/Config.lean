import NotionProject.ApiKey
import NotionProject.Failure
import NotionProject.Identifier

/-!
# Configuration

Everything that is needed to talk to a workspace: the root page of the project, the key,
the URL of the API and how long to wait for an answer.
-/

namespace NotionProject

/-- Everything that is needed to talk to a workspace. -/
structure Config where
  root : Identifier
  key : ApiKey
  baseUrl : Url
  timeoutMillis : Nat

namespace Config

/-- The URL of the public API. -/
def publicBase : Url where
  secure := true
  userInfo := .none
  host := .domain "api.notion.com".toList
  port := none
  path := ["v1".toList]
  query := none
  fragment := none

/-- How long to wait for an answer, in seconds, unless it is said otherwise. -/
def usualTimeout : Nat := 30

/-- The variable of the environment that holds the key. -/
def keyVariable : String := "NOTION_API_KEY"

/-- The configuration for the public API. -/
def new (root : Identifier) (key : ApiKey) : Config :=
  ⟨root, key, publicBase, usualTimeout * 1000⟩

/-- A key, or its refusal. -/
def readKey (text : String) : Except Failure ApiKey :=
  match ApiKey.parse text with
  | .ok key => .ok key
  | .error error => .error (.refused error.refusal)

/-- An identifier, or its refusal. -/
def readId (text : String) : Except Failure Identifier :=
  match Identifier.parse text with
  | .ok id => .ok id
  | .error error => .error (.refused error.refusal)

/-- The configuration for a root and the key in the environment, if there is one. -/
def ofEnvironment (key : Option String) (root : String) : Except Failure Config := do
  match key with
  | none => .error (.missingConfiguration (keyVariable ++ " environment variable not set"))
  | some key =>
    let key ← readKey key
    let root ← readId root
    pure (new root key)

/-- The configuration with another URL of the API. -/
def withBaseUrl (config : Config) (text : String) : Except Failure Config :=
  match Url.parse text with
  | .ok url => .ok { config with baseUrl := url }
  | .error error => .error (.refused (Url.refusal text error))

/-- The configuration with another time to wait. -/
def withTimeout (config : Config) (millis : Nat) : Config :=
  { config with timeoutMillis := millis }

end Config

end NotionProject
