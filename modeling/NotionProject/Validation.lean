/-!
# Values that are not accepted

The three kinds of text that are checked before anything is done with them, with what was
found wrong.
-/

namespace NotionProject

/-- A text that was refused: as an identifier, as a URL or as an API key. -/
inductive ValidationError where
  | id (detail : String)
  | url (text reason : String)
  | apiKey (reason : String)
deriving DecidableEq

/-- The wording of the error. -/
def ValidationError.message : ValidationError → String
  | .id detail => "Invalid Notion ID format: " ++ detail
  | .url text reason => "Invalid URL: " ++ text ++ " - " ++ reason
  | .apiKey reason => "Invalid API key format: " ++ reason

end NotionProject
