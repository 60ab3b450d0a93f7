import NotionProject.Json.Basic
import NotionProject.Binary64.Shortest

/-!
# JSON text

`compact` writes a value without white space, `pretty` with one member or item a line,
indented by two spaces. Strings escape quotes, backslashes and control characters and
nothing else. An integer is written with its digits, a binary64 number with the fewest
digits that read back.
-/

namespace NotionProject

namespace Json

/-- The two digits, in base sixteen, of a number below 256. -/
def hexPair (n : Nat) : List Char :=
  [Nat.digitChar (n / 16), Nat.digitChar (n % 16)]

/-- One character as it stands in a string. -/
def escapeChar (c : Char) : List Char :=
  if c = '"' then ['\\', '"']
  else if c = '\\' then ['\\', '\\']
  else if c.toNat < 0x20 then
    if c = '\n' then ['\\', 'n']
    else if c = '\t' then ['\\', 't']
    else if c = '\r' then ['\\', 'r']
    else if c = '\x08' then ['\\', 'b']
    else if c = '\x0c' then ['\\', 'f']
    else '\\' :: 'u' :: '0' :: '0' :: hexPair c.toNat
  else [c]

/-- A string between quotes. -/
def stringChars (s : String) : List Char :=
  '"' :: s.toList.flatMap escapeChar ++ ['"']

/-- The digits of an integer, after its sign. -/
def intChars : Int → List Char
  | .ofNat n => Nat.toDigits 10 n
  | .negSucc n => '-' :: Nat.toDigits 10 (n + 1)

/-- A number. -/
def numberChars : Number → List Char
  | .integer n => intChars n
  | .real x => x.text

/-! ## Without white space -/

mutual

/-- A value without white space. -/
def compactChars : Json → List Char
  | null => "null".toList
  | bool true => "true".toList
  | bool false => "false".toList
  | number n => numberChars n
  | string s => stringChars s
  | array items => '[' :: itemChars items
  | object members => '\x7b' :: memberChars members

/-- The items of an array and its end. -/
def itemChars : List Json → List Char
  | [] => [']']
  | value :: rest => compactChars value ++ moreItemChars rest

/-- The items after the first, each after a comma, and the end of the array. -/
def moreItemChars : List Json → List Char
  | [] => [']']
  | value :: rest => ',' :: compactChars value ++ moreItemChars rest

/-- The members of an object and its end. -/
def memberChars : List (String × Json) → List Char
  | [] => ['\x7d']
  | (name, value) :: rest =>
    stringChars name ++ ':' :: compactChars value ++ moreMemberChars rest

/-- The members after the first, each after a comma, and the end of the object. -/
def moreMemberChars : List (String × Json) → List Char
  | [] => ['\x7d']
  | (name, value) :: rest =>
    ',' :: stringChars name ++ ':' :: compactChars value ++ moreMemberChars rest

end

/-- A value without white space. -/
def compact (value : Json) : String :=
  String.ofList (compactChars value)

/-! ## One item a line -/

/-- A new line with an indentation. -/
def newLine (depth : Nat) : List Char :=
  '\n' :: List.replicate (2 * depth) ' '

mutual

/-- A value at a depth of indentation. -/
def prettyChars (depth : Nat) : Json → List Char
  | null => "null".toList
  | bool true => "true".toList
  | bool false => "false".toList
  | number n => numberChars n
  | string s => stringChars s
  | array [] => ['[', ']']
  | array (value :: rest) =>
    '[' :: newLine (depth + 1) ++ prettyChars (depth + 1) value ++ prettyItems depth rest
  | object [] => ['\x7b', '\x7d']
  | object ((name, value) :: rest) =>
    '\x7b' :: newLine (depth + 1) ++ stringChars name ++ ':' :: ' ' ::
      prettyChars (depth + 1) value ++ prettyMembers depth rest

/-- The items after the first and the end of the array. -/
def prettyItems (depth : Nat) : List Json → List Char
  | [] => newLine depth ++ [']']
  | value :: rest =>
    ',' :: newLine (depth + 1) ++ prettyChars (depth + 1) value ++ prettyItems depth rest

/-- The members after the first and the end of the object. -/
def prettyMembers (depth : Nat) : List (String × Json) → List Char
  | [] => newLine depth ++ ['\x7d']
  | (name, value) :: rest =>
    ',' :: newLine (depth + 1) ++ stringChars name ++ ':' :: ' ' ::
      prettyChars (depth + 1) value ++ prettyMembers depth rest

end

/-- A value with one item or member a line. -/
def pretty (value : Json) : String :=
  String.ofList (prettyChars 0 value)

end Json

end NotionProject
