import NotionProject.Proofs.Updating
import NotionProject.Proofs.Url.FormText

/-!
# Cursors in a URL

A part of a list is asked for at a cursor, which may be any text. Below a base URL without a query
and a fragment, the address of a request that reads is told by its endpoint and its pairs
(`Client.addressBelow`, `Client.chars_of_request?`), and whether it can be put together by that
address and the host (`Client.isSome_sent?_get_iff`). As a form is read back from its query, so is
the cursor, and different cursors are asked for at different addresses (`Project.asks_for_cursor`).
-/

namespace NotionProject

variable {α : Type}

namespace Client

variable {client : Client} {base : Url}

/-! ## The address of a request -/

/-- What requests keep of a base: a name and a password that sign them are left out. -/
def keptOf (base : Url) : Url :=
  if (basic? base.userInfo).isSome then base.withoutUser else base

/-- The address of an endpoint with a query, below a base URL without a query and a fragment. -/
def addressBelow (base : Url) (endpoint : String) (query : Form) : List Char :=
  (keptOf base).originChars ++ Text.dropEndWhile (· == '/') base.pathChars ++
    '/' :: endpoint.toList ++ '?' :: Form.encode query

/-- A request can be put together for the address: the host is read again, a request can hold it,
and the address is not too long. -/
structure CanAsk (base : Url) (address : List Char) : Prop where
  host_read : ∃ host, Host.parse base.host.chars = .ok host
  host_sendable : base.host.chars.any Request.isUnsendable = false
  length_le : address.length ≤ Request.maxUrlLength

/-- A request that reads is for the URL without what it leaves out, and with its pairs. -/
theorem url_requestTo_get {exchange : Exchange α} (hget : exchange.method = .get)
    (hpairs : exchange.query ≠ []) {url : Url} (hquery : url.query = none) :
    (client.requestTo exchange url).url =
      { keptOf url with query := some (Form.encode exchange.query) } := by
  have hencode := Form.encode_ne_nil hpairs
  have hadded : addQuery exchange.method exchange.query url =
      { url with query := some (Form.encode exchange.query) } := by
    simp [addQuery, hget, Url.withForm, hquery, hencode]
  unfold requestTo keptOf
  rw [hadded]
  dsimp only
  cases basic? url.userInfo <;> rfl

theorem chars_keptOf {url : Url} (hfragment : url.fragment = none) (query : List Char) :
    ({ keptOf url with query := some query } : Url).chars =
      (keptOf url).originChars ++ url.pathChars ++ '?' :: query := by
  unfold keptOf
  split
  · simp only [Url.chars, Url.withoutUser, hfragment, Url.marked, List.append_nil]
    rfl
  · simp only [Url.chars, hfragment, Url.marked, List.append_nil]
    rfl

section Base

variable (hbase : client.base = base.base) (h : base.IsNormal) (hquery : base.query = none)
  (hfragment : base.fragment = none)

include h hquery hfragment

/-- A request that reads at the joined URL has the address of its endpoint and its pairs. -/
theorem chars_url_requestTo (inquiry : Inquiry) (hget : inquiry.exchange.method = .get)
    (hpairs : inquiry.exchange.query ≠ []) :
    (client.requestTo inquiry.exchange (base.joined inquiry.names)).url.chars =
      addressBelow base inquiry.endpoint inquiry.exchange.query := by
  have hpath : (base.joined inquiry.names).pathChars =
      Text.dropEndWhile (· == '/') base.pathChars ++ '/' :: inquiry.endpoint.toList := by
    rw [Url.pathChars_joined h inquiry.names_ne_nil hquery hfragment, Url.extended,
      inquiry.toList_endpoint]
  have hjoined : base.joined inquiry.names = _ := Url.joined_of_eq_none hquery hfragment
  have horigin : (keptOf (base.joined inquiry.names)).originChars = (keptOf base).originChars := by
    rw [hjoined]
    unfold keptOf
    split <;> rfl
  rw [url_requestTo_get hget hpairs (by rw [hjoined]; exact hquery),
    chars_keptOf (by rw [hjoined]; exact hfragment), hpath, horigin, addressBelow,
    List.append_assoc _ _ ('/' :: _)]

include hbase

/-- There is a request that reads exactly if one can be put together for its address. -/
theorem isSome_sent?_get_iff (inquiry : Inquiry) (hget : inquiry.exchange.method = .get)
    (hpairs : inquiry.exchange.query ≠ []) : (client.sent? inquiry.exchange).isSome ↔
      CanAsk base (addressBelow base inquiry.endpoint inquiry.exchange.query) := by
  have hchars : (client.requestTo inquiry.exchange (base.joined inquiry.names)).url.chars = _ :=
    chars_url_requestTo h hquery hfragment inquiry hget hpairs
  have hsendable :
      (client.requestTo inquiry.exchange (base.joined inquiry.names)).isSendable = true ↔
      (addressBelow base inquiry.endpoint inquiry.exchange.query).length ≤ Request.maxUrlLength ∧
        base.host.chars.any Request.isUnsendable = false := by
    rw [Request.isSendable, hchars, host_url_requestTo, Url.host_joined, Bool.and_eq_true,
      decide_eq_true_eq, Bool.not_eq_true']
  rw [sent?, request?_exchange hbase h]
  cases hhost : Host.parse base.host.chars with
  | error error =>
    refine iff_of_false (by simp [Except.toOption]) fun hcan => ?_
    obtain ⟨host, hread⟩ := hcan.host_read
    rw [hhost] at hread
    cases hread
  | ok host =>
    rw [Except.toOption, Option.map_some, Option.filter_some]
    constructor
    · intro hsome
      by_cases hs :
        (client.requestTo inquiry.exchange (base.joined inquiry.names)).isSendable = true
      · obtain ⟨hlength, hchars⟩ := hsendable.1 hs
        exact ⟨⟨host, hhost⟩, hchars, hlength⟩
      · rw [if_neg hs] at hsome
        cases hsome
    · intro hcan
      rw [if_pos (hsendable.2 ⟨hcan.length_le, hcan.host_sendable⟩)]
      rfl

/-- The server sees the address of the endpoint and the pairs. -/
theorem target_of_sent? (inquiry : Inquiry) (hget : inquiry.exchange.method = .get)
    (hpairs : inquiry.exchange.query ≠ []) {request : Request}
    (hs : client.sent? inquiry.exchange = some request) : request.target.toList =
      addressBelow base inquiry.endpoint inquiry.exchange.query := by
  obtain ⟨hr, -⟩ := Option.filter_eq_some_iff.1 hs
  obtain ⟨info, query, hurl⟩ := url_of_request? hbase h inquiry hr
  have hwhole : request.url.withoutFragment = request.url := by
    rw [hurl, Url.joined_of_eq_none hquery hfragment]
    simp only [Url.withoutFragment, hfragment]
  rw [request?_exchange hbase h] at hr
  obtain ⟨host, -, rfl⟩ := Option.map_eq_some_iff.1 hr
  rw [Request.target, hwhole, Url.text, String.toList_ofList,
    chars_url_requestTo h hquery hfragment inquiry hget hpairs]

end Base

end Client

/-! ## Parts of a list -/

theorem Endpoint.listQuery_eq (cursor : Option String) : listQuery cursor =
    ("page_size", "100") :: (cursor.map fun cursor => ("start_cursor", cursor)).toList := by
  cases cursor <;> rfl

theorem Endpoint.listQuery_injective : Function.Injective listQuery := by
  intro cursor other h
  cases cursor <;> cases other <;> simp_all [listQuery]

/-- The address of a part of the children of a page. -/
def Client.partAddress (base : Url) (parent : Identifier) (cursor : Option String) : List Char :=
  addressBelow base ("blocks/" ++ parent.hyphenated ++ "/children") (Endpoint.listQuery cursor)

/-- Parts at the same address are at the same cursor, whatever the pages: all their endpoints have
the same length. -/
theorem Client.cursor_eq_of_partAddress {base : Url} {parent otherParent : Identifier}
    {cursor otherCursor : Option String}
    (h : partAddress base parent cursor = partAddress base otherParent otherCursor) :
    cursor = otherCursor := by
  have hlength : ("blocks/" ++ parent.hyphenated ++ "/children").toList.length =
      ("blocks/" ++ otherParent.hyphenated ++ "/children").toList.length := by
    simp [String.toList_append, Identifier.length_hyphenated]
  obtain ⟨-, hquery⟩ := List.append_inj h (by
    simp only [List.length_append, List.length_cons, hlength])
  exact Endpoint.listQuery_injective (Form.encode_injective (List.cons.inj hquery).2)

/-- The request is for the children of a page, at the address of the part; from its query nothing is
read but the size of a part and, if there is one, the cursor. -/
structure Request.IsForPart (base : Url) (parent : Identifier) (cursor : Option String)
    (request : Request) : Prop where
  isFor : request.IsFor base .get ("blocks/" ++ parent.hyphenated ++ "/children") none
  target_eq : request.target.toList = Client.partAddress base parent cursor
  query_read : ∃ query, request.url.query = some query ∧ Form.decode query =
    ("page_size", "100") :: (cursor.map fun cursor => ("start_cursor", cursor)).toList

/-- Every request that is made for a part was put together for it. -/
theorem Client.sent?_of_mem_requests {client : Client} {parent : Identifier}
    {cursor : Option String} {server : Server} {request : Request}
    (h : request ∈ ((client.perform (Endpoint.children parent cursor)).run server).requests) :
    client.sent? (Endpoint.children parent cursor) = some request :=
  Option.filter_eq_some_iff.2 ((client.confined_perform rfl server).sends_of_mem request h)

namespace Project

section Configured

variable {config configured : Config} {text : String} {project : Project}
  (hconfig : config.withBaseUrl text = .ok configured)
  (hproject : ofConfig configured = .ok project)
  (hquery : configured.baseUrl.query = none) (hfragment : configured.baseUrl.fragment = none)

include hconfig hproject hquery hfragment

theorem isForPart_of_sent? {parent : Identifier} {cursor : Option String} {request : Request}
    (hs : project.client.sent? (Endpoint.children parent cursor) = some request) :
    request.IsForPart configured.baseUrl parent cursor := by
  have hbase := base_of_ofConfig hproject
  have hnormal := Config.isNormal_baseUrl hconfig
  have hpairs : Endpoint.listQuery cursor ≠ [] := List.cons_ne_nil _ _
  have hread : Form.decode (Form.encode (Endpoint.listQuery cursor)) = _ :=
    (Form.decode_encode _).trans (Endpoint.listQuery_eq cursor)
  refine
    { isFor := isFor_of_sent? hconfig hproject (.children parent cursor) hs
      target_eq := Client.target_of_sent? hbase hnormal hquery hfragment
        (.children parent cursor) rfl hpairs hs
      query_read := ⟨Form.encode (Endpoint.listQuery cursor), ?_, hread⟩ }
  rw [Client.query_of_sent? hbase hnormal hquery (.children parent cursor) rfl hs]
  change (some (Form.encode (Endpoint.listQuery cursor))).filter _ = _
  exact Option.filter_some_pos (by simpa using Form.encode_ne_nil hpairs)

/-- A part of the children of a page is asked for at any cursor with one request, if it can be put
together, and that request is for the cursor. Requests for different cursors, or for one cursor and
for none, are at different addresses, whatever the pages. -/
theorem asks_for_cursor (parent : Identifier) (cursor : Option String) {replies : List Reply}
    (hu : .unreachable ∉ replies) :
    let run := (project.client.perform (Endpoint.children parent cursor)).run (.scripted replies)
    let canAsk := Client.CanAsk configured.baseUrl
      (Client.partAddress configured.baseUrl parent cursor)
    (canAsk → ∃ request, run.requests = [request] ∧
      request.IsForPart configured.baseUrl parent cursor) ∧
    (¬canAsk → run.requests = []) ∧
    ∀ otherParent otherCursor server, otherCursor ≠ cursor → ∀ request ∈ run.requests,
      ∀ other ∈ ((project.client.perform (Endpoint.children otherParent otherCursor)).run
        server).requests, request.target ≠ other.target := by
  intro run canAsk
  have hrequests : run.requests = (project.client.sent? (Endpoint.children parent cursor)).toList :=
    Client.requests_perform rfl hu
  have hsome : (project.client.sent? (Endpoint.children parent cursor)).isSome ↔ canAsk :=
    Client.isSome_sent?_get_iff (base_of_ofConfig hproject) (Config.isNormal_baseUrl hconfig) hquery
      hfragment (.children parent cursor) rfl (List.cons_ne_nil _ _)
  refine ⟨fun hcan => ?_, fun hcannot => ?_, ?_⟩
  · obtain ⟨request, hs⟩ := Option.isSome_iff_exists.1 (hsome.2 hcan)
    rw [hs] at hrequests
    exact ⟨request, hrequests, isForPart_of_sent? hconfig hproject hquery hfragment hs⟩
  · rw [hrequests, Option.not_isSome_iff_eq_none.1 (mt hsome.1 hcannot)]
    rfl
  · intro otherParent otherCursor server hne request hrequest other hother htarget
    have hfor := isForPart_of_sent? hconfig hproject hquery hfragment
      (Client.sent?_of_mem_requests hrequest)
    have hfor' := isForPart_of_sent? hconfig hproject hquery hfragment
      (Client.sent?_of_mem_requests hother)
    have haddress := hfor'.target_eq.symm.trans ((congrArg String.toList htarget).symm.trans
      hfor.target_eq)
    exact hne (Client.cursor_eq_of_partAddress haddress)

end Configured

/-- A cursor with the marks of a query is read back from its one request. -/
theorem asks_for_cursor_sample : ∃ configured,
    Client.sampleConfig.withBaseUrl "http://h/v1" = .ok configured ∧
      ofConfig configured = .ok ⟨.ofRandom 0, .sample "http://h/v1"⟩ ∧
      configured.baseUrl.query = none ∧ configured.baseUrl.fragment = none ∧
      let run := ((Client.sample "http://h/v1").perform
        (Endpoint.children (.ofRandom 0) (some "a&b=1 +%é"))).run (.scripted [])
      ∃ request, run.requests = [request] ∧
        request.target = "http://h/v1/blocks/00000000-0000-4000-8000-000000000000/children" ++
          "?page_size=100&start_cursor=a%26b%3D1+%2B%25%C3%A9" ∧
        ∃ query, request.url.query = some query ∧
          Form.decode query = [("page_size", "100"), ("start_cursor", "a&b=1 +%é")] := by
  obtain ⟨configured, hconfig, hproject, hurl⟩ := exists_configured_sample
  have hquery : configured.baseUrl.query = none := by rw [hurl]
  have hfragment : configured.baseUrl.fragment = none := by rw [hurl]
  refine ⟨configured, hconfig, hproject, hquery, hfragment, ?_⟩
  obtain ⟨hone, -, -⟩ := asks_for_cursor hconfig hproject hquery hfragment (.ofRandom 0)
    (some "a&b=1 +%é") (List.not_mem_nil (a := Reply.unreachable))
  rw [hurl] at hone
  dsimp only at hone ⊢
  obtain ⟨request, hrequests, hfor⟩ := hone
    ⟨⟨.domain ['h'], by decide +kernel⟩, by decide +kernel, by decide +kernel⟩
  exact ⟨request, hrequests, String.toList_injective (hfor.target_eq.trans (by decide +kernel)),
    hfor.query_read⟩

/-- Nothing is asked at a host that no request can hold, nor at a cursor that makes the address too
long. -/
theorem asks_for_no_cursor :
    (∃ configured, Client.sampleConfig.withBaseUrl "http://a\x7db/v1" = .ok configured ∧
      ofConfig configured = .ok unsendable ∧ configured.baseUrl.query = none ∧
      configured.baseUrl.fragment = none ∧
      ((unsendable.client.perform (Endpoint.children (.ofRandom 0) (some "c"))).run
        (.scripted [])).requests = []) ∧
    ∃ configured cursor, Client.sampleConfig.withBaseUrl "http://h/v1" = .ok configured ∧
      ofConfig configured = .ok ⟨.ofRandom 0, .sample "http://h/v1"⟩ ∧
      configured.baseUrl.query = none ∧ configured.baseUrl.fragment = none ∧
      cursor = String.ofList (List.replicate 65535 'a') ∧
      (((Client.sample "http://h/v1").perform
        (Endpoint.children (.ofRandom 0) (some cursor))).run (.scripted [])).requests = [] := by
  constructor
  · obtain ⟨configured, hconfig, hproject⟩ := exists_configured_unsendable
    have hparse : Url.parse "http://a\x7db/v1" =
        .ok ⟨false, .none, .domain "a\x7db".toList, none, ["v1".toList], none, none⟩ := by
      decide +kernel
    have hurl := Except.ok.inj ((Config.parse_of_withBaseUrl hconfig).symm.trans hparse)
    have hunsent : unsendable.client.sent? (Endpoint.children (.ofRandom 0) (some "c")) = none :=
      Option.isNone_iff_eq_none.1 (by decide +kernel)
    exact ⟨configured, hconfig, hproject, by rw [hurl], by rw [hurl],
      (Client.comesTo_perform_unsent hunsent _).requests_eq⟩
  · obtain ⟨configured, hconfig, hproject, hurl⟩ := exists_configured_sample
    have hlong : Request.maxUrlLength <
        (String.ofList (List.replicate 65535 'a')).toList.length := by
      rw [String.toList_ofList, List.length_replicate]
      decide
    have hsent := (Client.sample "http://h/v1").sent?_children_of_long (.ofRandom 0) hlong
    exact ⟨configured, _, hconfig, hproject, by rw [hurl], by rw [hurl], rfl,
      (Client.comesTo_perform_unsent hsent _).requests_eq⟩

end Project

end NotionProject
