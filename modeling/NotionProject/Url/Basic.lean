import NotionProject.Url.Host

/-!
# URLs

A `Url` is an HTTP or HTTPS URL taken apart; its parts are kept percent-encoded, as they
are written. `Url.text` is its one text.
-/

namespace NotionProject

/-- The name and the password before the host, percent-encoded. -/
structure UserInfo where
  name : List Char
  password : Option (List Char)
deriving DecidableEq

namespace UserInfo

/-- No name and no password. -/
def none : UserInfo := ⟨[], .none⟩

/-- Whether there is neither a name nor a password. -/
def isNone (info : UserInfo) : Bool :=
  info.name.isEmpty && info.password.isNone

/-- The text before the host. -/
def chars (info : UserInfo) : List Char :=
  if info.isNone then []
  else
    info.name ++
      (match info.password with
        | .none => []
        | some password => ':' :: password) ++ ['@']

end UserInfo

/-- An HTTP or HTTPS URL. -/
structure Url where
  secure : Bool
  userInfo : UserInfo
  host : Host
  port : Option Nat
  path : List (List Char)
  query : Option (List Char)
  fragment : Option (List Char)
deriving DecidableEq

namespace Url

/-- The name of the scheme. -/
def scheme (url : Url) : List Char :=
  if url.secure then "https".toList else "http".toList

/-- The segments of the path, each after a slash. -/
def pathChars (url : Url) : List Char :=
  url.path.flatMap fun segment => '/' :: segment

/-- A part that may be missing, after its mark. -/
def marked (mark : Char) : Option (List Char) → List Char
  | none => []
  | some part => mark :: part

/-- The text before the path: scheme, user, host and port. -/
def originChars (url : Url) : List Char :=
  url.scheme ++ ':' :: '/' :: '/' :: url.userInfo.chars ++ url.host.chars ++
    marked ':' (url.port.map (Nat.toDigits 10))

/-- The text of the URL. -/
def chars (url : Url) : List Char :=
  url.originChars ++ url.pathChars ++ marked '?' url.query ++ marked '#' url.fragment

/-- The text of the URL. -/
def text (url : Url) : String :=
  String.ofList url.chars

/-- The URL without its fragment. -/
def withoutFragment (url : Url) : Url :=
  { url with fragment := none }

/-- The URL without a name and a password. -/
def withoutUser (url : Url) : Url :=
  { url with userInfo := .none }

end Url

end NotionProject
