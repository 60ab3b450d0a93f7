import NotionProject.Proofs.BaseUrl
import NotionProject.Proofs.Resolution
import NotionProject.Proofs.Writing

/-!
# What is asked for

`Request.IsFor` says of a request what a server sees of it that matters: its method, the endpoint
below the base URL, and its body. The request of an inquiry is for the endpoint of the inquiry and
has its body (`Client.isFor_of_sent?`).

An exchange makes its request whatever comes of it, and makes no other
(`Client.requests_perform`). Whether that request can be put together does not depend on its body
(`Client.isSome_sent?_send`), and what can be put together for an endpoint can be for a shorter
one, as the length of a URL is that of the base and of the endpoint
(`Client.isSome_sent?_of_length_lt`).
-/

namespace NotionProject

variable {α : Type}

/-- The request has the method and the body, and is for the endpoint below the base URL. A query
or a fragment of the base takes the endpoint in, so only without them its place is in the path. -/
structure Request.IsFor (base : Url) (method : Method) (endpoint : String) (body : Option Json)
    (request : Request) : Prop where
  method_eq : request.method = method
  secure_eq : request.url.secure = base.secure
  host_eq : request.url.host = base.host
  port_eq : request.url.port = base.port
  path_eq : base.query = none → base.fragment = none → request.url.pathChars =
    Text.dropEndWhile (· == '/') base.pathChars ++ '/' :: endpoint.toList
  body_eq : request.body = body

namespace Client

variable {client : Client}

theorem method_of_request? {exchange : Exchange α} {request : Request}
    (h : client.request? exchange = some request) : request.method = exchange.method := by
  unfold request? at h
  split at h
  · obtain rfl := Option.some.inj h
    unfold requestTo
    dsimp only
    split <;> rfl
  · cases h

/-- The pairs of a query make no difference to the user. -/
theorem userInfo_addQuery (method : Method) (query : Form) (url : Url) :
    (addQuery method query url).userInfo = url.userInfo := by
  unfold addQuery
  split <;> rfl

/-- The request of an inquiry is for the endpoint of the inquiry. -/
theorem isFor_of_sent? {base : Url} (hbase : client.base = base.base) (h : base.IsNormal)
    (inquiry : Inquiry) {request : Request} (hs : client.sent? inquiry.exchange = some request) :
    request.IsFor base inquiry.exchange.method inquiry.endpoint inquiry.exchange.body := by
  obtain ⟨hr, -⟩ := Option.filter_eq_some_iff.1 hs
  obtain ⟨info, query, hurl⟩ := url_of_request? hbase h inquiry hr
  refine
    { method_eq := method_of_request? hr
      secure_eq := by rw [hurl, Url.secure_joined]
      host_eq := by rw [hurl, Url.host_joined]
      port_eq := by rw [hurl, Url.port_joined]
      path_eq := fun hquery hfragment => ?_
      body_eq := body_of_request? hr }
  have hpath : request.url.pathChars = (base.joined inquiry.names).pathChars := by
    rw [hurl]
    rfl
  rw [hpath, Url.pathChars_joined h inquiry.names_ne_nil hquery hfragment, Url.extended,
    inquiry.toList_endpoint]

/-- The query of a request that reads is made of the pairs of its inquiry, if the base has none. -/
theorem query_of_sent? {base : Url} (hbase : client.base = base.base) (h : base.IsNormal)
    (hnone : base.query = none) (inquiry : Inquiry) (hget : inquiry.exchange.method = .get)
    {request : Request} (hs : client.sent? inquiry.exchange = some request) :
    request.url.query =
      (some (Form.encode inquiry.exchange.query)).filter fun query => !query.isEmpty := by
  obtain ⟨hr, -⟩ := Option.filter_eq_some_iff.1 hs
  unfold request? at hr
  rw [address_eq hbase h] at hr
  split at hr
  next url hurl =>
    obtain rfl := Url.eq_of_parse_text (isNormal_joined_names h inquiry) hurl
    obtain rfl := Option.some.inj hr
    have hjoined : (base.joined inquiry.names).query = none := by
      cases hfragment : base.fragment <;> simp [Url.joined, hfragment, hnone]
    have hquery : (client.requestTo inquiry.exchange (base.joined inquiry.names)).url.query =
        (addQuery inquiry.exchange.method inquiry.exchange.query
          (base.joined inquiry.names)).query := by
      unfold requestTo
      dsimp only
      split <;> rfl
    rw [hquery, addQuery, if_pos hget, Url.withForm, hjoined, Option.filter_some]
    simp
  next => cases hr

/-- Whatever the body, the request can be put together or cannot. -/
theorem isSome_sent?_send (client : Client) (method : Method) (endpoint : String)
    (decode : Decoder α) (body other : Json) :
    (client.sent? (Endpoint.send method endpoint body decode)).isSome =
      (client.sent? (Endpoint.send method endpoint other decode)).isSome := by
  unfold sent? request? Endpoint.send
  cases Url.parse (client.address endpoint) with
  | error error => rfl
  | ok url =>
    -- whether a request can be put together is told by its URL
    have hsendable : ∀ authorization given, Request.isSendable
        (requestTo.make ⟨method, endpoint, [], some body, Answer.read decode⟩ authorization given) =
        Request.isSendable
          (requestTo.make ⟨method, endpoint, [], some other, Answer.read decode⟩ authorization
            given) := fun _ _ => rfl
    simp only [requestTo, Option.filter_some]
    split <;> simp only [hsendable] <;> split <;> rfl

/-! ### Lengths -/

/-- How much of a URL a request leaves out: a name and a password that sign it. -/
def leftOut (info : UserInfo) : Nat :=
  if (basic? info).isSome then info.chars.length else 0

/-- The length of a URL with another user and another query. -/
theorem length_chars_with (url : Url) (info : UserInfo) (query : Option (List Char)) :
    ({ url with userInfo := info, query := query } : Url).chars.length +
        (url.userInfo.chars.length + (Url.marked '?' url.query).length) =
      url.chars.length + (info.chars.length + (Url.marked '?' query).length) := by
  have hchars : ({ url with userInfo := info, query := query } : Url).chars =
      url.scheme ++ ':' :: '/' :: '/' :: info.chars ++ url.host.chars ++
        Url.marked ':' (url.port.map (Nat.toDigits 10)) ++ url.pathChars ++
        Url.marked '?' query ++ Url.marked '#' url.fragment := rfl
  rw [hchars, Url.chars, Url.originChars]
  simp only [List.length_append, List.length_cons]
  omega

theorem length_withoutUser (url : Url) :
    url.withoutUser.chars.length + url.userInfo.chars.length = url.chars.length := by
  have hlength := length_chars_with url .none url.query
  have hnone : UserInfo.none.chars.length = 0 := rfl
  change url.withoutUser.chars.length + _ = _ at hlength
  omega

/-- Without pairs to add, at most the mark of an empty query is left out. -/
theorem length_addQuery_nil (method : Method) (url : Url) :
    (addQuery method [] url).chars.length ≤ url.chars.length ∧
      url.chars.length ≤ (addQuery method [] url).chars.length + 1 := by
  unfold addQuery
  split
  · have hform : url.withForm [] = { url with query := url.query.filter (!·.isEmpty) } := by
      rcases url with ⟨_, _, _, _, _, _ | _ | ⟨c, query⟩, _⟩ <;> rfl
    have hlength := length_chars_with url url.userInfo (url.query.filter (!·.isEmpty))
    have hmark : (Url.marked '?' (url.query.filter (!·.isEmpty))).length ≤
          (Url.marked '?' url.query).length ∧
        (Url.marked '?' url.query).length ≤
          (Url.marked '?' (url.query.filter (!·.isEmpty))).length + 1 := by
      rcases url.query with _ | _ | ⟨c, query⟩ <;> simp [Option.filter, Url.marked]
    rw [hform]
    omega
  · omega

theorem length_url_requestTo (client : Client) (exchange : Exchange α) (url : Url) :
    (client.requestTo exchange url).url.chars.length + leftOut url.userInfo =
      (addQuery exchange.method exchange.query url).chars.length := by
  have hinfo := userInfo_addQuery exchange.method exchange.query url
  have hurl : (client.requestTo exchange url).url =
      if (basic? url.userInfo).isSome then
        (addQuery exchange.method exchange.query url).withoutUser
      else addQuery exchange.method exchange.query url := by
    simp only [requestTo, hinfo]
    cases basic? url.userInfo <;> rfl
  rw [hurl, leftOut]
  split
  · rw [← hinfo, length_withoutUser]
  · rfl

theorem host_url_requestTo (client : Client) (exchange : Exchange α) (url : Url) :
    (client.requestTo exchange url).url.host = url.host := by
  obtain ⟨info, query, hurl⟩ := exists_url_requestTo client exchange url
  rw [hurl]

/-- The request of an inquiry is made from the joined URL, and there is one if the host is read. -/
theorem request?_exchange {base : Url} (hbase : client.base = base.base) (h : base.IsNormal)
    (inquiry : Inquiry) : client.request? inquiry.exchange =
      (Host.parse base.host.chars).toOption.map fun _ =>
        client.requestTo inquiry.exchange (base.joined inquiry.names) := by
  have hnormal := isNormal_joined_names h inquiry
  have hsame : Host.parse base.host.chars = Host.parse (base.joined inquiry.names).host.chars := by
    rw [Url.host_joined]
  rw [request?, address_eq hbase h, Url.parse, Url.text, String.toList_ofList,
    Url.parseChars_chars hnormal, hsame]
  cases hhost : Host.parse (base.joined inquiry.names).host.chars with
  | error error => rfl
  | ok host =>
    rw [Host.eq_of_parse_chars hnormal.host hhost]
    rfl

/-- If the request of an inquiry can be put together, so can that of another one with a shorter
endpoint, as long as neither has pairs to add. -/
theorem isSome_sent?_of_length_lt {base : Url} (hbase : client.base = base.base)
    (h : base.IsNormal) {inquiry other : Inquiry} (hquery : inquiry.exchange.query = [])
    (hother : other.exchange.query = [])
    (hlt : other.endpoint.toList.length < inquiry.endpoint.toList.length)
    (hs : (client.sent? inquiry.exchange).isSome) : (client.sent? other.exchange).isSome := by
  have hlength : ∀ inquiry : Inquiry, (base.joined inquiry.names).chars.length =
      (Text.dropEndWhile (· == '/') base.chars).length + (inquiry.endpoint.toList.length + 1) := by
    intro inquiry
    rw [Url.chars_joined h inquiry.names_ne_nil, Url.extended, ← inquiry.toList_endpoint,
      List.length_append, List.length_cons]
  obtain ⟨request, hrequest⟩ := Option.isSome_iff_exists.1 hs
  obtain ⟨hr, hsendable⟩ := Option.filter_eq_some_iff.1 hrequest
  rw [request?_exchange hbase h] at hr
  obtain ⟨host, hhost, rfl⟩ := Option.map_eq_some_iff.1 hr
  rw [sent?, request?_exchange hbase h, hhost, Option.map_some, Option.filter_some]
  have hsendable' : (client.requestTo other.exchange
      (base.joined other.names)).isSendable = true := by
    simp only [Request.isSendable, host_url_requestTo, Url.host_joined, Bool.and_eq_true,
      decide_eq_true_eq] at hsendable ⊢
    refine ⟨?_, hsendable.2⟩
    have hsent := client.length_url_requestTo inquiry.exchange (base.joined inquiry.names)
    have hsent' := client.length_url_requestTo other.exchange (base.joined other.names)
    rw [Url.userInfo_joined, hquery] at hsent
    rw [Url.userInfo_joined, hother] at hsent'
    have hmost := (length_addQuery_nil inquiry.exchange.method (base.joined inquiry.names)).2
    have hleast := (length_addQuery_nil other.exchange.method (base.joined other.names)).1
    have hjoined := hlength inquiry
    have hjoined' := hlength other
    omega
  rw [if_pos hsendable']
  rfl

/-- An exchange makes its request, if it can be put together, and no other. -/
theorem requests_perform {exchange : Exchange α} {decode : Decoder α}
    (hread : exchange.read = Answer.read decode) {replies : List Reply}
    (hu : .unreachable ∉ replies) :
    ((client.perform exchange).run (.scripted replies)).requests =
      (client.sent? exchange).toList := by
  cases hs : client.sent? exchange with
  | none => exact (comesTo_perform_unsent hs _).requests_eq
  | some request => exact (comesTo_perform hread hs (Server.headD_ne_unreachable hu)).requests_eq

end Client

namespace Project

/-- The client of a configured project has the base URL of the configuration. -/
theorem base_of_ofConfig {config : Config} {project : Project} (h : ofConfig config = .ok project) :
    project.client.base = config.baseUrl.base := by
  obtain ⟨client, hclient, h⟩ := bind_eq_ok_iff.1 h
  cases h
  exact Client.base_of_ofConfig hclient

/-- The request of an inquiry of a configured project is for its endpoint below the base URL of the
configuration. -/
theorem isFor_of_sent? {config configured : Config} {text : String} {project : Project}
    (hconfig : config.withBaseUrl text = .ok configured)
    (hproject : ofConfig configured = .ok project) (inquiry : Inquiry) {request : Request}
    (hs : project.client.sent? inquiry.exchange = some request) :
    request.IsFor configured.baseUrl inquiry.exchange.method inquiry.endpoint
      inquiry.exchange.body :=
  Client.isFor_of_sent? (base_of_ofConfig hproject) (Config.isNormal_baseUrl hconfig) inquiry hs

/-- A text that is read as a URL is the base URL of a project. -/
theorem exists_configured_of_parse {text base : String} {url : Url}
    (h : Url.parse text = .ok url) (hbase : url.base = base) :
    ∃ configured, Client.sampleConfig.withBaseUrl text = .ok configured ∧
      ofConfig configured = .ok ⟨.ofRandom 0, .sample base⟩ ∧ configured.baseUrl = url := by
  obtain ⟨configured, hconfig, hclient, hurl⟩ := Client.exists_configured_of_parse h
  have hroot : configured.root = .ofRandom 0 := by
    rw [Config.withBaseUrl_of_parse _ h] at hconfig
    cases hconfig
    rfl
  refine ⟨configured, hconfig, ?_, hurl⟩
  rw [ofConfig, hclient, hroot, hbase]
  rfl

/-- A base URL with a path, and nothing else after the host. -/
theorem exists_configured_sample :
    ∃ configured, Client.sampleConfig.withBaseUrl "http://h/v1" = .ok configured ∧
      ofConfig configured = .ok ⟨.ofRandom 0, .sample "http://h/v1"⟩ ∧
      configured.baseUrl = ⟨false, .none, .domain ['h'], none, ["v1".toList], none, none⟩ := by
  have hparse : Url.parse "http://h/v1" =
      .ok ⟨false, .none, .domain ['h'], none, ["v1".toList], none, none⟩ := by decide +kernel
  exact exists_configured_of_parse hparse (by decide +kernel)

/-- A host that no request can hold may be in a base URL. -/
theorem exists_configured_unsendable :
    ∃ configured, Client.sampleConfig.withBaseUrl "http://a\x7db/v1" = .ok configured ∧
      ofConfig configured = .ok unsendable := by
  have hparse : Url.parse "http://a\x7db/v1" =
      .ok ⟨false, .none, .domain "a\x7db".toList, none, ["v1".toList], none, none⟩ := by
    decide +kernel
  have hbase : Url.base ⟨false, .none, .domain "a\x7db".toList, none, ["v1".toList], none, none⟩ =
      "http://a\x7db/v1" := by decide +kernel
  obtain ⟨configured, hconfig, hproject, -⟩ := exists_configured_of_parse hparse hbase
  exact ⟨configured, hconfig, hproject⟩

end Project

end NotionProject
