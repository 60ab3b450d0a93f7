import NotionProject.Endpoint

/-!
# Walks

A walk asks for the parts of a list one after the other, each with the cursor that the part
before it named, until a part is the last one. A failure on the way is the failure of the
walk. As every part takes one reply, a walk ends with the replies at the latest.
-/

namespace NotionProject

/-- The items of all parts of a list, and how many parts there were. -/
structure Walk (α : Type) where
  items : List α
  parts : Nat

namespace Walk

variable {α : Type}

/-- What is asked for the part at a cursor, or for the first one. -/
abbrev Request (α : Type) := Option String → Exchange (Listing α)

/-- The line that is logged for a part. -/
def partText (number : Nat) (listing : Listing α) : String :=
  "Fetched page " ++ toString number ++ " with " ++ toString listing.results.length ++
    " items (has_more: " ++ toString listing.hasMore ++ ")"

/-- Asks for a part. -/
def fetch (client : Client) (ask : Request α) (number : Nat) (cursor : Option String) :
    Call (Listing α) := do
  let listing ← client.perform (ask cursor)
  Call.log .debug (partText number listing)
  pure listing

/-- The walk that is at its end with a part. -/
def single (number : Nat) (listing : Listing α) : Walk α :=
  ⟨listing.results, number⟩

/-- The walk that goes on after a part. -/
def goOn (listing : Listing α) (rest : Walk α) : Walk α :=
  ⟨listing.results ++ rest.items, rest.parts⟩

/-- Walks on from a cursor. After the last reply nothing is left to go on with. -/
def follow (client : Client) (ask : Request α) :
    List Reply → Nat → Option String → Run (Walk α)
  | [], number, cursor =>
    ((fetch client ask number cursor).andThen fun listing => pure (single number listing)).run
      (.scripted [])
  | reply :: rest, number, cursor =>
    ((fetch client ask number cursor).andThen fun listing =>
      match listing.continuation? with
      | none => pure (single number listing)
      | some cursor =>
        { run := fun _ =>
            let onward := follow client ask rest (number + 1) (some cursor)
            ⟨onward.outcome.map (goOn listing), onward.events, onward.server⟩ }).run
      (.scripted (reply :: rest))

/-- Walks through a whole list. -/
def all (client : Client) (ask : Request α) : Call (Walk α) where
  run
    | .offline =>
      ((fetch client ask 1 none).andThen fun listing => pure (single 1 listing)).run .offline
    | .scripted replies => follow client ask replies 1 none

end Walk

end NotionProject
