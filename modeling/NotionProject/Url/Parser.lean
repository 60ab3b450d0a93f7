import NotionProject.Url.Basic
import NotionProject.Text.Blank
import NotionProject.Validation

/-!
# Reading URLs

`Url.parse` reads a text by the URL standard and accepts it if its scheme is HTTP or HTTPS.
A URL of another scheme is refused for its scheme, but only after it has been found to be
one.
-/

namespace NotionProject

namespace Url

/-! ## Before the parts -/

/-- A character that is dropped wherever it stands. -/
def isIgnored (c : Char) : Bool :=
  c == '\t' || c == '\n' || c == '\r'

/-- A space or a control character. -/
def isMargin (c : Char) : Bool :=
  c.toNat ≤ 0x20

/-- The text without spaces and control characters at its ends, and without tabs and line
ends. -/
def cleaned (text : List Char) : List Char :=
  (Text.dropEndWhile isMargin (text.dropWhile isMargin)).filter (!isIgnored ·)

/-- A letter of ASCII. -/
def isLetter (c : Char) : Bool :=
  ('a' ≤ c && c ≤ 'z') || ('A' ≤ c && c ≤ 'Z')

/-- A character of the name of a scheme. -/
def isSchemeChar (c : Char) : Bool :=
  isLetter c || c.isDigit || c == '+' || c == '-' || c == '.'

/-- The name of the scheme, in lower case, and the text after its colon. -/
def splitScheme? (text : List Char) : Option (List Char × List Char) :=
  match text with
  | [] => none
  | c :: _ =>
    if isLetter c then
      match text.dropWhile isSchemeChar with
      | ':' :: rest => some ((text.takeWhile isSchemeChar).map Char.toLower, rest)
      | _ => none
    else none

/-- What the scheme says about the rest of a URL. -/
inductive SchemeKind where
  | web (secure : Bool)
  | special
  | file
  | plain
deriving DecidableEq

/-- The kind of a scheme. -/
def SchemeKind.ofName (name : List Char) : SchemeKind :=
  let name := String.ofList name
  if name = "http" then web false
  else if name = "https" then web true
  else if name = "ftp" ∨ name = "ws" ∨ name = "wss" then special
  else if name = "file" then file
  else plain

/-! ## User, host and port -/

/-- A character that ends the part with user, host and port. -/
def endsAuthority (special : Bool) (c : Char) : Bool :=
  c == '/' || c == '?' || c == '#' || (special && c == '\\')

/-- Name and password from the text before the last at sign. An empty password is none. -/
def parseUserInfo (text : List Char) : UserInfo :=
  let (name, password) := Text.splitFirst ':' text
  { name := Percent.encode Percent.inUserInfo name
    password :=
      match password with
      | none => none
      | some [] => none
      | some password => some (Percent.encode Percent.inUserInfo password) }

/-- The text of the host: up to a colon that stands outside brackets. -/
def hostLength (bracketed : Bool) : List Char → Nat
  | [] => 0
  | c :: rest =>
    if c = ':' ∧ bracketed = false then 0
    else
      1 + hostLength (if c = '[' then true else if c = ']' then false else bracketed) rest

/-- The port after the colon. No digits, and the usual port of the scheme, are no port. -/
def parsePort (usual : Option Nat) (digits : List Char) : Except UrlError (Option Nat) :=
  let step (acc : Except UrlError Nat) (c : Char) : Except UrlError Nat := do
    let n ← acc
    if c.isDigit then
      let n := n * 10 + (c.toNat - '0'.toNat)
      if n < 65536 then pure n else .error .badPort
    else .error .badPort
  do
    let n ← digits.foldl step (.ok 0)
    if digits.isEmpty ∨ some n = usual then pure none else pure (some n)

/-- User, host and port taken apart, each as text. -/
structure AuthorityText where
  user : Option (List Char)
  host : List Char
  port : Option (List Char)

/-- Takes apart the text between the slashes and the path. -/
def AuthorityText.ofChars (text : List Char) : AuthorityText :=
  let (user, rest) :=
    match Text.splitLast? '@' text with
    | none => (none, text)
    | some (user, rest) => (some user, rest)
  let n := hostLength false rest
  { user := user
    host := rest.take n
    port := match rest.drop n with
      | [] => none
      | _ :: port => some port }

/-- The port that a scheme uses if a URL names none. -/
def usualPort (secure : Bool) : Nat :=
  if secure then 443 else 80

/-- User, host and port of a URL whose scheme asks for a host. -/
def parseAuthority (usual : Option Nat) (text : List Char) :
    Except UrlError (UserInfo × Host × Option Nat) := do
  let parts := AuthorityText.ofChars text
  if parts.host.isEmpty then .error .emptyHost
  else
    let host ← Host.parse parts.host
    let port ← parsePort usual (parts.port.getD [])
    pure ((parts.user.map parseUserInfo).getD .none, host, port)

/-- Whether user, host and port are those of a URL whose scheme does not ask for a host. A
user or a port goes with a host only, and so does an at sign before the path. -/
def checkPlainAuthority (text : List Char) (followed : Bool) : Except UrlError Unit := do
  let parts := AuthorityText.ofChars text
  if text == ['@'] && followed then .error .emptyHost
  Host.parsePlain parts.host
  if parts.host.isEmpty ∧ parts.port.isSome then .error .emptyHost
  let _ ← parsePort none ((parts.port.getD []).takeWhile (· != '\\'))
  let user := (parts.user.map parseUserInfo).getD .none
  if parts.host.isEmpty ∧ ¬user.isNone then .error .emptyHost

/-! ## Path, query and fragment -/

/-- The segment that stands for the place where it stands. -/
def isHere (segment : List Char) : Bool :=
  let text := (String.ofList segment).toLower
  text == "." || text == "%2e"

/-- The segment that stands for the place above. -/
def isAbove (segment : List Char) : Bool :=
  let text := (String.ofList segment).toLower
  text == ".." || text == "%2e%2e" || text == ".%2e" || text == "%2e."

/-- A letter with a colon or a bar, the name of a drive. -/
def isDrive : List Char → Bool
  | [c, mark] => isLetter c && (mark == ':' || mark == '|')
  | _ => false

/-- The path without its last segment, given last segment first. A drive is never left. -/
def goUp : List (List Char) → List (List Char)
  | [] => []
  | segment :: rest => if isDrive segment then segment :: rest else rest

/-- The segments of a path, given those before, last first. A segment that stands for a
place leaves an empty one if it is the last. -/
def resolve (before : List (List Char)) : List (List Char) → List (List Char)
  | [] => before.reverse
  | [segment] =>
    if isAbove segment then ([] :: goUp before).reverse
    else if isHere segment then ([] :: before).reverse
    else (segment :: before).reverse
  | segment :: rest =>
    if isAbove segment then resolve (goUp before) rest
    else if isHere segment then resolve before rest
    else resolve (segment :: before) rest

/-- The parts of a text between slashes of either kind. -/
def splitPath (text : List Char) : List (List Char) :=
  Text.splitAt '/' (text.map fun c => if c = '\\' then '/' else c)

/-- The segments of a path. -/
def parsePath (text : List Char) : List (List Char) :=
  let text :=
    match text with
    | '/' :: rest => rest
    | '\\' :: rest => rest
    | text => text
  resolve [] ((splitPath text).map (Percent.encode Percent.inPath))

/-! ## The whole URL -/

/-- An HTTP or HTTPS URL, from the text after the colon of its scheme. Any number of
slashes stands before the host. -/
def parseWeb (secure : Bool) (text : List Char) : Except UrlError Url := do
  let text := text.dropWhile fun c => c == '/' || c == '\\'
  let authority := text.takeWhile (!endsAuthority true ·)
  let text := text.drop authority.length
  let (userInfo, host, port) ← parseAuthority (some (usualPort secure)) authority
  let (text, fragment) := Text.splitFirst '#' text
  let (path, query) := Text.splitFirst '?' text
  pure
    { secure, userInfo, host, port
      path := parsePath path
      query := query.map (Percent.encode Percent.inQuery)
      fragment := fragment.map (Percent.encode Percent.inFragment) }

/-- Whether a text is a URL of a scheme other than HTTP and HTTPS, after the colon of the
scheme. -/
def checkOther (kind : SchemeKind) (text : List Char) : Except UrlError Unit :=
  match kind with
  | .file =>
    match text with
    | a :: b :: rest =>
      if (a = '/' ∨ a = '\\') ∧ (b = '/' ∨ b = '\\') then
        let host := rest.takeWhile (!endsAuthority true ·)
        if host.isEmpty ∨ isDrive host then .ok () else (Host.parse host).map fun _ => ()
      else .ok ()
    | _ => .ok ()
  | .plain =>
    match text with
    | '/' :: '/' :: rest =>
      let authority := rest.takeWhile (!endsAuthority false ·)
      checkPlainAuthority authority (authority.length < rest.length)
    | _ => .ok ()
  | _ =>
    let rest := text.dropWhile fun c => c == '/' || c == '\\'
    (parseAuthority none (rest.takeWhile (!endsAuthority true ·))).map fun _ => ()

/-- Reads an HTTP or HTTPS URL. -/
def parseChars (text : List Char) : Except UrlError Url :=
  match splitScheme? (cleaned text) with
  | none => .error .noScheme
  | some (name, rest) =>
    match SchemeKind.ofName name with
    | .web secure => parseWeb secure rest
    | kind => do
      checkOther kind rest
      .error .unsupportedScheme

/-- Reads an HTTP or HTTPS URL. -/
def parse (text : String) : Except UrlError Url :=
  parseChars text.toList

/-- The refusal of a text as a URL. -/
def refusal (text : String) (error : UrlError) : ValidationError :=
  .url text error.reason

/-- The text of the URL without slashes at its end, to which a path may be added. -/
def base (url : Url) : String :=
  String.ofList (Text.dropEndWhile (· == '/') url.chars)

end Url

end NotionProject
