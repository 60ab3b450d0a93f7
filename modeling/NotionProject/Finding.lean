import NotionProject.Project
import NotionProject.Text.Case

/-!
# Finding by title

Pages and databases are found by their titles among the children of a page. Identifiers are
unique and titles are not, so a search goes through all children; its result is every
match, or the one match that there has to be.

A page has its title in the block that stands for it, and the title has to be the same. For
a database its title is asked for, and it has to be the same in lower case.
-/

namespace NotionProject

namespace Project

/-! ## Matches -/

/-- Whether a title is the one that was asked for. -/
def sameTitle : Kind → String → String → Bool
  | .page, candidate, wanted => candidate == wanted
  | .database, candidate, wanted => lowercase candidate == lowercase wanted

/-- The title of what a block of the kind stands for. -/
def titleOf (project : Project) (kind : Kind) (block : Block) : Call String :=
  match kind with
  | .page => pure (block.pageTitle?.getD "")
  | .database => do
    let database ← project.client.perform (Endpoint.database block.id)
    pure database.titleText

/-- The identifiers of the blocks of a kind that have a title, in order. -/
def matchesAmong (project : Project) (kind : Kind) (title : String) :
    List Block → Call (List Identifier)
  | [] => pure []
  | block :: rest => do
    if block.kind? = some kind then
      let candidate ← project.titleOf kind block
      let others ← matchesAmong project kind title rest
      pure (if sameTitle kind candidate title then block.id :: others else others)
    else matchesAmong project kind title rest

/-- The line that is logged before a search. -/
def searchText (kind : Kind) (parent : Identifier) (title : String) (walk : Walk Block) :
    String :=
  "Searching " ++ toString walk.items.length ++ " children of " ++ parent.text ++ " over " ++
    toString walk.parts ++ " page(s) for " ++ kind.name ++ " '" ++ title ++ "'"

/-- All identifiers of a kind with a title among the children of a page. -/
def matchingChildren (project : Project) (kind : Kind) (parent : Identifier) (title : String) :
    Call (List Identifier) := do
  let walk ← Walk.all project.client (Endpoint.children parent)
  Call.log .debug (searchText kind parent title walk)
  project.matchesAmong kind title walk.items

/-! ## Results -/

/-- Every match; there has to be one. -/
def everyMatch (kind : Kind) (title : String) :
    List Identifier → Except Failure (List Identifier)
  | [] => .error (.notFound kind title)
  | found => .ok found

/-- The only match. -/
def onlyMatch (kind : Kind) (title : String) : List Identifier → Except Failure Identifier
  | [] => .error (.notFound kind title)
  | [id] => .ok id
  | _ => .error (.duplicate kind title)

/-- The identifiers of all resources of a kind with a title below a page. -/
def findAll (project : Project) (kind : Kind) (parent : Identifier) (title : String) :
    Call (List Identifier) := do
  let found ← project.matchingChildren kind parent title
  Call.ofExcept (everyMatch kind title found)

/-- The identifier of the only resource of a kind with a title below a page. -/
def findOnly (project : Project) (kind : Kind) (parent : Identifier) (title : String) :
    Call Identifier := do
  let found ← project.matchingChildren kind parent title
  Call.ofExcept (onlyMatch kind title found)

/-- The page of a section. -/
def sectionPage (project : Project) (part : Section) : Call Identifier :=
  project.findOnly .page project.root part.title

end Project

end NotionProject
