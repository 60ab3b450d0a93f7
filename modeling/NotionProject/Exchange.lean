import NotionProject.Answer
import NotionProject.Config
import NotionProject.Text.Base64

/-!
# Exchanges

An `Exchange` is one request together with the way to read its answer. `Client.perform`
logs the request, sends it signed with the key, takes one reply and reads it. It sends at
most one request.
-/

namespace NotionProject

/-- A request without its header fields, and the way to read its answer. -/
structure Exchange (α : Type) where
  method : Method
  endpoint : String
  query : Form
  body : Option Json
  read : Answer → Call α

/-- What signs and addresses requests. -/
structure Client where
  key : ApiKey
  base : String

namespace Client

variable {α : Type}

/-- The version of the API that every request asks for. -/
def apiVersion : String := "2022-06-28"

/-- The form of the bodies that are sent. -/
def contentType : String := "application/json"

/-- The client of a configuration. A key that does not fit a header field is refused. -/
def ofConfig (config : Config) : Except Failure Client :=
  if config.key.fitsHeader then .ok ⟨config.key, config.baseUrl.base⟩
  else
    .error (.missingConfiguration "Invalid API token format: failed to parse header value")

/-! ## Requests -/

/-- The text of an endpoint's URL. -/
def address (client : Client) (endpoint : String) : String :=
  client.base ++ "/" ++ endpoint

/-- The signature of a request by the key. -/
def bearer (client : Client) : String :=
  "Bearer " ++ client.key.text

/-- The text that octets stand for, if they are well-formed. -/
def exactText? (octets : List UInt8) : Option String :=
  let text := decodeOctets octets
  if utf8Octets text.toList = octets then some text else none

/-- The signature of a request by the name and the password in its URL, if it has any. A
name that is no text stays in the URL. -/
def basic? (info : UserInfo) : Option String := do
  let name ← exactText? (Percent.decode info.name)
  let password := info.password.bind fun password => exactText? (Percent.decode password)
  if name.isEmpty && password.isNone then none
  else some ("Basic " ++ base64 (utf8Octets (name ++ ":" ++ password.getD "").toList))

/-- The query of a request: a request that reads adds its pairs to the URL. -/
def addQuery (method : Method) (query : Form) (url : Url) : Url :=
  if method = .get then url.withForm query else url

/-- The request of an exchange to a URL. A name and a password in the URL sign it in place
of the key. -/
def requestTo (client : Client) (exchange : Exchange α) (url : Url) : Request :=
  let url := addQuery exchange.method exchange.query url
  match basic? url.userInfo with
  | none => make client.bearer url
  | some signature => make signature url.withoutUser
where
  make (authorization : String) (url : Url) : Request :=
    { method := exchange.method
      url := url
      authorization := authorization
      version := apiVersion
      contentType := contentType
      body := exchange.body }

/-- The request of an exchange, if its address is a URL. -/
def request? (client : Client) (exchange : Exchange α) : Option Request :=
  match Url.parse (client.address exchange.endpoint) with
  | .ok url => some (client.requestTo exchange url)
  | .error _ => none

/-! ## Performing -/

/-- A pair of a query as it is logged. -/
def logPair (pair : String × String) : String :=
  "(" ++ quoted pair.1 ++ ", " ++ quoted pair.2 ++ ")"

/-- The line that is logged for an exchange: the address, and the query of a request that
reads. -/
def logText (client : Client) (exchange : Exchange α) : String :=
  let line := exchange.method.name ++ " " ++ client.address exchange.endpoint
  if exchange.method = .get then
    line ++ " [" ++ ", ".intercalate (exchange.query.map logPair) ++ "]"
  else line

/-- The failure of a request without an answer. -/
def noAnswer (request : Request) (cause : NetworkCause) : Failure :=
  .network ⟨request.url.text, cause⟩

/-- Sends a request and takes one reply. An answer is to the URL that the server has seen; the
failure to get one names the URL that was asked for, with its fragment. -/
def send (request : Request) : Call Answer where
  run server :=
    let (reply, server) := server.take
    match reply.arrived with
    | .answer status body => ⟨.ok ⟨status, request.target, body⟩, [.sent request], server⟩
    | .dropped => ⟨.error (noAnswer request .dropped), [.sent request], server⟩
    | .unreachable => ⟨.error (noAnswer request .unreachable), [], server⟩

/-- Sends the request of an exchange and reads the answer. Nothing is sent if there is no
request, or none that can be put together. -/
def perform (client : Client) (exchange : Exchange α) : Call α := do
  Call.log .debug (client.logText exchange)
  match client.request? exchange with
  | none => Call.fail (.network ⟨client.address exchange.endpoint, .unbuilt⟩)
  | some request =>
    if request.isSendable then
      let answer ← send request
      exchange.read answer
    else Call.fail (noAnswer request .unbuilt)

end Client

end NotionProject
