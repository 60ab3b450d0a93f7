import NotionProject.Binary64.Shortest
import NotionProject.Json.Basic
import NotionProject.Json.Fault
import NotionProject.Text.Quoted
import NotionProject.Timestamp
import NotionProject.Validation

/-!
# Texts that do not have the expected form

`DecodeError` is why a JSON text is not read as a value of a certain type: the text itself
is at fault, or it holds something else than was expected.
-/

namespace NotionProject

/-- What stands where something else was expected. -/
inductive Found where
  | null
  | bool (b : Bool)
  | number (n : Number)
  | string (s : String)
  | sequence
  | map

/-- The wording of what was found. -/
def Found.description : Found → String
  | null => "null"
  | bool true => "boolean `true`"
  | bool false => "boolean `false`"
  | number (.integer n) => "integer `" ++ toString n ++ "`"
  | number (.real x) => "floating point `" ++ String.ofList x.text ++ "`"
  | string s => "string " ++ quoted s
  | sequence => "sequence"
  | map => "map"

/-- Why a JSON text is not read as a value of the expected type. -/
inductive DecodeError where
  | text (error : TextError)
  | unexpected (found : Found) (expected : String)
  | missingField (name : String)
  | duplicateField (name : String)
  | unknownVariant (name : String) (known : List String)
  | badLength (length : Nat) (expected : String)
  | refused (error : ValidationError)
  | time (error : TimeError)

namespace DecodeError

/-- Names as alternatives. -/
def alternatives (names : List String) : String :=
  let marked := names.map fun name => "`" ++ name ++ "`"
  match marked with
  | [] => "nothing"
  | [a] => a
  | [a, b] => a ++ " or " ++ b
  | more => "one of " ++ ", ".intercalate more

/-- The wording of the error. As for a `TextError`, the line and the column at which the JSON reader
stopped, which its own wording ends with where a text was read, are left out. -/
def message : DecodeError → String
  | text error => error.message
  | unexpected found expected => "invalid type: " ++ found.description ++ ", expected " ++ expected
  | missingField name => "missing field `" ++ name ++ "`"
  | duplicateField name => "duplicate field `" ++ name ++ "`"
  | unknownVariant name known =>
    "unknown variant `" ++ name ++ "`, expected " ++ alternatives known
  | badLength length expected =>
    "invalid length " ++ toString length ++ ", expected " ++ expected
  | refused error => error.message
  | time error => error.message

end DecodeError

end NotionProject
