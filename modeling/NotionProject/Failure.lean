import NotionProject.Block
import NotionProject.Http.Basic

/-!
# Failures

Why a call does not have a result. What the server reports is kept apart from what could
not be found, and both from requests without an answer and from answers that make no sense.
-/

namespace NotionProject

/-- The kind of an error that the server reports: one of its codes, a status for want of a
code, or a code that is not known. -/
inductive ErrorCode where
  | rateLimited
  | objectNotFound
  | unauthorized
  | restrictedResource
  | invalidJson
  | validationFailed
  | conflict
  | internalError
  | serviceUnavailable
  | httpStatus (status : Nat)
  | unknown (code : String)
deriving DecidableEq

namespace ErrorCode

/-- The codes of the server that are known. -/
def known : List (String × ErrorCode) :=
  [("rate_limited", rateLimited), ("object_not_found", objectNotFound),
   ("unauthorized", unauthorized), ("restricted_resource", restrictedResource),
   ("invalid_json", invalidJson), ("validation_error", validationFailed),
   ("conflict_error", conflict), ("internal_server_error", internalError),
   ("service_unavailable", serviceUnavailable)]

/-- The code that the server names. -/
def ofText (code : String) : ErrorCode :=
  (known.lookup code).getD (unknown code)

/-- The text of the code. -/
def text : ErrorCode → String
  | rateLimited => "rate_limited"
  | objectNotFound => "object_not_found"
  | unauthorized => "unauthorized"
  | restrictedResource => "restricted_resource"
  | invalidJson => "invalid_json"
  | validationFailed => "validation_error"
  | conflict => "conflict_error"
  | internalError => "internal_server_error"
  | serviceUnavailable => "service_unavailable"
  | httpStatus status => "http_" ++ toString status
  | unknown code => code

/-- Whether the code means that the object does not exist. -/
def isNotFound : ErrorCode → Bool
  | objectNotFound => true
  | httpStatus status => status == 404
  | _ => false

end ErrorCode

/-- What the server reports instead of a result. -/
structure ApiError where
  status : Nat
  code : ErrorCode
  message : String
  requestId : Option String
deriving DecidableEq

/-- Why a call does not have a result. -/
inductive Failure where
  | notFound (kind : Kind) (title : String)
  | duplicate (kind : Kind) (title : String)
  | parentNotFound (parent : String)
  | missingConfiguration (detail : String)
  | network (error : NetworkError)
  | api (error : ApiError)
  | malformed (detail : String)
  | refused (error : ValidationError)
deriving DecidableEq

namespace Failure

/-- The wording of the failure. -/
def message : Failure → String
  | notFound kind title => "No " ++ kind.name ++ " found with name '" ++ title ++ "'"
  | duplicate kind title => "Multiple " ++ kind.name ++ "s found with name '" ++ title ++ "'"
  | parentNotFound parent => "Parent page " ++ parent ++ " does not exist"
  | missingConfiguration detail => "Missing configuration: " ++ detail
  | network error => "Network failure: " ++ error.message
  | api error =>
    "Notion API returned an error (" ++ error.code.text ++ ", HTTP " ++ toString error.status ++
      "): " ++ error.message
  | malformed detail => "Malformed response: " ++ detail
  | refused error => error.message

/-- Whether the server reported that the object does not exist. -/
def isNotFound : Failure → Bool
  | api error => error.code.isNotFound
  | _ => false

/-- What lies behind the failure, step by step. -/
def causes : Failure → List String
  | network error => error.message :: error.causes
  | _ => []

end Failure

end NotionProject
