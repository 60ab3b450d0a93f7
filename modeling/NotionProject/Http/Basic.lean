import NotionProject.Json.Printer
import NotionProject.Url.Parser
import NotionProject.Url.Form

/-!
# Requests and replies

A `Request` is what reaches the server, a `Reply` what comes of it: an answer, a connection
that is closed without one, or no connection at all.
-/

namespace NotionProject

/-- The methods in use. -/
inductive Method where
  | get
  | post
  | patch
deriving DecidableEq

/-- The name of the method. -/
def Method.name : Method → String
  | get => "GET"
  | post => "POST"
  | patch => "PATCH"

/-- A request with the header fields that every request has. -/
structure Request where
  method : Method
  url : Url
  authorization : String
  version : String
  contentType : String
  body : Option Json

namespace Request

/-- The URL as the server sees it, without a fragment. -/
def target (request : Request) : String :=
  request.url.withoutFragment.text

/-- A character of a host that no request can hold, although URLs may. -/
def isUnsendable (c : Char) : Bool :=
  "\"`\x7b\x7d".toList.contains c

/-- The length of the longest URL of a request. -/
def maxUrlLength : Nat := 65534

/-- Whether the request can be put together: its URL is not too long, and its host has only
characters that a request can hold. -/
def isSendable (request : Request) : Bool :=
  request.url.chars.length ≤ maxUrlLength && !request.url.host.chars.any isUnsendable

/-- The text of the body. -/
def bodyText? (request : Request) : Option String :=
  request.body.map Json.compact

end Request

/-- What comes of a request. -/
inductive Reply where
  | answer (status : Nat) (body : String)
  | dropped
  | unreachable
deriving DecidableEq

/-- Whether a status only announces the answer that is to come. The change to another
protocol, 101, is an answer itself. -/
def isInterim (status : Nat) : Bool :=
  100 ≤ status && status ≤ 199 && status != 101

/-- The statuses of answers that end with their head, whatever is sent after it. -/
def bodiless : List Nat := [101, 204, 304]

/-- The reply as it arrives. Nothing follows an announcement, so it comes to no answer. -/
def Reply.arrived : Reply → Reply
  | answer status body =>
    if isInterim status then dropped
    else if bodiless.contains status then answer status ""
    else answer status body
  | reply => reply

/-- An answer arrives whole unless its status says otherwise. -/
theorem Reply.arrived_answer {status : Nat} (h : 200 ≤ status) (hs : status ∉ bodiless)
    (body : String) : (answer status body).arrived = answer status body := by
  have hi : isInterim status = false := by
    simp only [isInterim, Bool.and_eq_false_iff, decide_eq_false_iff_not]
    omega
  simp [arrived, hi, hs]

/-- An answer of the server together with the URL that it is the answer to. -/
structure Answer where
  status : Nat
  url : String
  body : String
deriving DecidableEq

/-- Whether the status means that the request succeeded. -/
def Answer.isSuccess (answer : Answer) : Bool :=
  200 ≤ answer.status && answer.status ≤ 299

/-- Why there is no answer: the request could not be put together, the server could not be
reached, or it closed the connection. -/
inductive NetworkCause where
  | unbuilt
  | unreachable
  | dropped
deriving DecidableEq

/-- A request without an answer. -/
structure NetworkError where
  url : String
  cause : NetworkCause
deriving DecidableEq

namespace NetworkError

/-- The wording of the error. -/
def message (error : NetworkError) : String :=
  (match error.cause with
    | .unbuilt => "builder error"
    | _ => "error sending request") ++ " for url (" ++ error.url ++ ")"

/-- What lies behind the error, step by step. -/
def causes (error : NetworkError) : List String :=
  match error.cause with
  | .unbuilt => ["Parsed Url is not a valid Uri"]
  | .unreachable =>
    ["client error (Connect)", "tcp connect error", "Network is unreachable (os error 101)"]
  | .dropped => ["client error (SendRequest)", "connection closed before message completed"]

end NetworkError

end NotionProject
