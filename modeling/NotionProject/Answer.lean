import NotionProject.Call
import NotionProject.Decode.Record
import NotionProject.Http.Status

/-!
# Reading answers

An answer with a status of success is read as a value of the expected type. Any other
answer is an error: the one that its text describes, or else one that is known by its
status alone. Where the text itself is quoted, no more than its beginning is.
-/

namespace NotionProject

/-- The description of an error in the text of an answer. -/
structure ErrorBody where
  object : String
  status : Nat
  code : String
  message : String
  requestId : Option String

/-- The fields of the description of an error. -/
def ErrorBody.fields : Fields ErrorBody :=
  ErrorBody.mk <$> .required "object" Decoder.string <*>
    .required "status" (Decoder.natural (Nat.pow 2 32 - 1) "u32") <*>
    .required "code" Decoder.string <*> .required "message" Decoder.string <*>
    .nullableMember "request_id" Decoder.string

/-- Reads the description of an error. -/
def ErrorBody.decode : Decoder ErrorBody :=
  ErrorBody.fields.decode "Error"

namespace Answer

variable {α : Type}

/-- How many characters of a text are quoted. -/
def previewLength : Nat := 500

/-- The beginning of a text. -/
def preview (body : String) : String :=
  String.ofList (body.toList.take previewLength)

/-- The error of an answer whose text does not describe one. -/
def plainError (answer : Answer) : ApiError where
  status := answer.status
  code := .httpStatus answer.status
  message := "HTTP " ++ statusText answer.status ++ " from " ++ answer.url ++ ": " ++
    preview answer.body
  requestId := none

/-- The error that the text of an answer describes. -/
def describedError (answer : Answer) (body : ErrorBody) : ApiError where
  status := answer.status
  code := .ofText body.code
  message := body.message
  requestId := body.requestId

/-- Reads the text of a successful answer. -/
def readSuccess (decode : Decoder α) (answer : Answer) : Call α :=
  match Decoder.ofText decode answer.body with
  | .ok value => pure value
  | .error error => do
    .log .error ("Failed to parse response from " ++ answer.url ++ ": " ++ error.message)
    .fail (.malformed (error.message ++ " (body: " ++ preview answer.body ++ ")"))

/-- Reads the text of an answer that is an error. -/
def readError (answer : Answer) : Call α :=
  match Decoder.ofText ErrorBody.decode answer.body with
  | .ok body => do
    .log .debug ("Notion error from " ++ answer.url ++ ": " ++ body.code ++ " (" ++
      body.message ++ ")")
    .fail (.api (answer.describedError body))
  | .error _ => .fail (.api answer.plainError)

/-- Reads an answer as a value of the expected type. -/
def read (decode : Decoder α) (answer : Answer) : Call α :=
  if answer.isSuccess then answer.readSuccess decode else answer.readError

end Answer

end NotionProject
