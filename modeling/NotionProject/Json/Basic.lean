import NotionProject.Members
import NotionProject.Binary64.Basic

/-!
# JSON values

Objects keep their members in order, because the order is part of what is written.
`canonical` is the form of a value that is carried along without being understood: in every
object the names rise, and of a repeated name the last value counts.
-/

namespace NotionProject

/-- A number is kept as an integer or as a binary64 number, and each is written in its own
way. -/
inductive Number where
  | integer (n : Int)
  | real (x : Binary64)
deriving DecidableEq

/-- The binary64 number that a number stands for. -/
def Number.toBinary64? : Number → Option Binary64
  | .integer n => Binary64.ofInt? n
  | .real x => some x

/-- A JSON value. -/
inductive Json where
  | null
  | bool (b : Bool)
  | number (n : Number)
  | string (s : String)
  | array (items : List Json)
  | object (members : List (String × Json))

namespace Json

instance : Inhabited Json := ⟨null⟩

/-- An integer as a value. -/
def int (n : Int) : Json :=
  number (.integer n)

/-- An object of the members that are there. -/
def ofFields (fields : List (String × Option Json)) : Json :=
  object (fields.filterMap fun field => field.2.map fun value => (field.1, value))

/-- A value or null. -/
def orNull : Option Json → Json
  | none => null
  | some value => value

/-- The text of a string. -/
def asString? : Json → Option String
  | string s => some s
  | _ => none

/-- The value under a name of an object. -/
def member? (value : Json) (name : String) : Option Json :=
  match value with
  | object members => Members.find? members name
  | _ => none

mutual

/-- The value with the members of every object in rising order, the last of each name. -/
def canonical : Json → Json
  | null => null
  | bool b => bool b
  | number n => number n
  | string s => string s
  | array items => array (canonicalItems items)
  | object members => object (Members.sorted (canonicalMembers members))

/-- Every item in canonical form. -/
def canonicalItems : List Json → List Json
  | [] => []
  | value :: rest => canonical value :: canonicalItems rest

/-- Every member's value in canonical form. -/
def canonicalMembers : List (String × Json) → List (String × Json)
  | [] => []
  | (name, value) :: rest => (name, canonical value) :: canonicalMembers rest

end

end Json

end NotionProject
