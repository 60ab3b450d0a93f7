import NotionProject.Proofs.Confinement
import NotionProject.Proofs.Turn
import NotionProject.Proofs.Url.Joining

/-!
# Requests under the base URL

Every address is the text of the base URL with the names of an endpoint after it, so what is asked
for is the joined URL (`Client.url_of_request?`). It has the scheme, the host and the port of the
base; it has the endpoint in its path just if the base has neither a query nor a fragment
(`Client.requests_under_base`), for these come after the path and take the names in
(`Client.request_with_fragment`).
-/

namespace NotionProject

open Url (IsName)

/-! ## Endpoints -/

namespace Identifier

theorem mem_nameChars_of_isLowerHexDigit {c : Char} (h : isLowerHexDigit c = true) :
    c ∈ Url.nameChars := by
  have key : ∀ n : Fin 128, isHexDigit (Char.ofNat n) = true →
      isLowerHexDigit (Char.ofNat n) = true → Char.ofNat n ∈ Url.nameChars := by decide
  have hdigit : isHexDigit c = true := by
    unfold isHexDigit
    rw [← isLowerHexDigit, h, Bool.true_or]
  exact of_isHexDigit (p := fun c => isLowerHexDigit c = true → c ∈ Url.nameChars) key hdigit h

/-- The hyphenated form is a name. -/
theorem isName_hyphenated (id : Identifier) : IsName id.hyphenated.toList := by
  have hhyphen : '-' ∈ Url.nameChars := by decide
  have hpart : ∀ {part : List Char}, part.Sublist id.digits → ∀ c ∈ part, c ∈ Url.nameChars :=
    fun hs c hc => mem_nameChars_of_isLowerHexDigit (id.isHex_digits c (hs.subset hc))
  have hmiddle : ∀ {start}, ((id.digits.drop start).take 4).Sublist id.digits :=
    (List.take_sublist _ _).trans (List.drop_sublist _ _)
  rw [hyphenated, String.toList_ofList]
  refine ⟨by simp, ?_⟩
  simp only [List.forall_mem_append, List.forall_mem_cons]
  exact ⟨⟨⟨⟨hpart (List.take_sublist _ _), hhyphen, hpart hmiddle⟩, hhyphen, hpart hmiddle⟩,
    hhyphen, hpart hmiddle⟩, hhyphen, hpart (List.drop_sublist _ _)⟩

end Identifier

namespace Inquiry

/-- The names in the path of the endpoint. -/
def names : Inquiry → List (List Char)
  | page id => ["pages".toList, id.hyphenated.toList]
  | database id => ["databases".toList, id.hyphenated.toList]
  | children parent _ => ["blocks".toList, parent.hyphenated.toList, "children".toList]
  | createPage _ => ["pages".toList]
  | createDatabase _ => ["databases".toList]
  | updatePage id _ => ["pages".toList, id.hyphenated.toList]
  | query id _ => ["databases".toList, id.hyphenated.toList, "query".toList]

/-- The path of the endpoint, after the base. -/
def endpoint : Inquiry → String
  | page id => "pages/" ++ id.hyphenated
  | database id => "databases/" ++ id.hyphenated
  | children parent _ => "blocks/" ++ parent.hyphenated ++ "/children"
  | createPage _ => "pages"
  | createDatabase _ => "databases"
  | updatePage id _ => "pages/" ++ id.hyphenated
  | query id _ => "databases/" ++ id.hyphenated ++ "/query"

variable (inquiry : Inquiry)

theorem endpoint_exchange : inquiry.exchange.endpoint = inquiry.endpoint := by
  cases inquiry <;> rfl

/-- An endpoint is its names with slashes between them. -/
theorem toList_endpoint : inquiry.endpoint.toList = ['/'].intercalate inquiry.names := by
  cases inquiry <;> simp [endpoint, names, String.toList_append]

theorem names_ne_nil : inquiry.names ≠ [] := by
  cases inquiry <;> simp [names]

/-- No name of an endpoint needs an escape. -/
theorem isName_of_mem_names : ∀ name ∈ inquiry.names, IsName name := by
  obtain ⟨hpages, hdatabases, hblocks, hchildren, hquery⟩ : IsName "pages".toList ∧
      IsName "databases".toList ∧ IsName "blocks".toList ∧ IsName "children".toList ∧
      IsName "query".toList := by
    unfold IsName
    decide
  have hid := Identifier.isName_hyphenated
  cases inquiry <;>
    simp only [names, List.forall_mem_cons, List.not_mem_nil, hpages, hdatabases, hblocks,
      hchildren, hquery, hid, false_implies, implies_true, and_self]

end Inquiry

/-! ## The URL of a request -/

theorem Config.parse_of_withBaseUrl {config configured : Config} {text : String}
    (h : config.withBaseUrl text = .ok configured) : Url.parse text = .ok configured.baseUrl := by
  unfold withBaseUrl at h
  split at h
  · next url hurl =>
    cases h
    exact hurl
  · cases h

theorem Config.withBaseUrl_of_parse (config : Config) {text : String} {url : Url}
    (h : Url.parse text = .ok url) :
    config.withBaseUrl text = .ok { config with baseUrl := url } := by
  rw [withBaseUrl, h]

/-- A base URL that was accepted is in normal form. -/
theorem Config.isNormal_baseUrl {config configured : Config} {text : String}
    (h : config.withBaseUrl text = .ok configured) : configured.baseUrl.IsNormal :=
  Url.isNormal_of_parseChars (parse_of_withBaseUrl h)

namespace Client

/-- A client asks below the base URL of its configuration. -/
theorem base_of_ofConfig {config : Config} {client : Client} (h : ofConfig config = .ok client) :
    client.base = config.baseUrl.base := by
  unfold ofConfig at h
  split at h
  · cases h
    rfl
  · cases h

/-- The pairs of a form and the user of a URL are all that a request changes. -/
theorem exists_url_requestTo {α : Type} (client : Client) (exchange : Exchange α) (url : Url) :
    ∃ info query, (client.requestTo exchange url).url =
      { url with userInfo := info, query := query } := by
  have hquery : ∃ query, addQuery exchange.method exchange.query url =
      { url with query := query } := by
    unfold addQuery
    split
    · exact ⟨_, rfl⟩
    · exact ⟨url.query, rfl⟩
  obtain ⟨query, hquery⟩ := hquery
  unfold requestTo
  rw [hquery]
  dsimp only
  split
  · exact ⟨url.userInfo, query, rfl⟩
  · exact ⟨.none, query, rfl⟩

section Base

variable {client : Client} {base : Url} (hbase : client.base = base.base) (h : base.IsNormal)
  (inquiry : Inquiry)

include h

theorem isNormal_joined_names : (base.joined inquiry.names).IsNormal :=
  Url.isNormal_joined h inquiry.names_ne_nil inquiry.isName_of_mem_names

include hbase

/-- The address of an endpoint is the text of the joined URL. -/
theorem address_eq :
    client.address inquiry.exchange.endpoint = (base.joined inquiry.names).text := by
  rw [Url.text, Url.chars_joined h inquiry.names_ne_nil, Url.extended, ← inquiry.toList_endpoint,
    inquiry.endpoint_exchange, address, hbase, Url.base]
  apply String.toList_injective
  simp [String.toList_append]

/-- A request is for the joined URL, apart from its user and its query. -/
theorem url_of_request? {request : Request}
    (hr : client.request? inquiry.exchange = some request) :
    ∃ info query, request.url =
      { base.joined inquiry.names with userInfo := info, query := query } := by
  unfold request? at hr
  rw [address_eq hbase h] at hr
  split at hr
  · next url hurl =>
    cases hr
    rw [Url.eq_of_parse_text (isNormal_joined_names h inquiry) hurl]
    exact exists_url_requestTo client inquiry.exchange _
  · cases hr

/-- There is a request, unless the host of the base says that it is in Punycode. -/
theorem exists_request? (hplain : base.host.IsPlain) :
    ∃ request, client.request? inquiry.exchange = some request := by
  have hparse := Url.parse_text_of_isPlain (isNormal_joined_names h inquiry)
    (by rwa [Url.host_joined])
  exact ⟨client.requestTo inquiry.exchange _, by rw [request?, address_eq hbase h, hparse]⟩

end Base

/-- Requests go to the scheme, the host and the port of the base. Their path is that of the base
without slashes at its end, a slash, and the endpoint, just if the base has neither a query nor a
fragment. -/
theorem requests_under_base {config configured : Config} {text : String} {client : Client}
    (hconfig : config.withBaseUrl text = .ok configured)
    (hclient : ofConfig configured = .ok client) (inquiry : Inquiry) :
    let base := configured.baseUrl
    (∀ server, ∀ request ∈ ((client.perform inquiry.exchange).run server).requests,
      request.url.secure = base.secure ∧ request.url.host = base.host ∧
        request.url.port = base.port ∧
        (request.url.pathChars =
            Text.dropEndWhile (· == '/') base.pathChars ++ '/' :: inquiry.endpoint.toList ↔
          base.query = none ∧ base.fragment = none)) ∧
      (base.host.IsPlain → ∃ request, client.request? inquiry.exchange = some request) := by
  intro base
  have h : base.IsNormal := Config.isNormal_baseUrl hconfig
  have hbase : client.base = base.base := base_of_ofConfig hclient
  refine ⟨fun server request hm => ?_, exists_request? hbase h inquiry⟩
  have hconfined := client.confined_perform inquiry.read_exchange server
  obtain ⟨info, query, hurl⟩ :=
    url_of_request? hbase h inquiry (hconfined.sends_of_mem request hm).1
  have hpath : request.url.pathChars = (base.joined inquiry.names).pathChars := by
    rw [hurl]
    rfl
  have hextended : Text.dropEndWhile (· == '/') base.pathChars ++ '/' :: inquiry.endpoint.toList =
      Url.extended base.pathChars inquiry.names := by
    rw [inquiry.toList_endpoint, Url.extended]
  rw [hpath, hextended, hurl]
  refine ⟨Url.secure_joined, Url.host_joined, Url.port_joined, fun he => ?_, fun hn => ?_⟩
  · by_contra hn
    rw [Url.pathChars_joined_of_ne_none (not_and_or.1 hn)] at he
    exact Url.extended_ne_self inquiry.names_ne_nil inquiry.isName_of_mem_names he.symm
  · exact Url.pathChars_joined h inquiry.names_ne_nil hn.1 hn.2

/-! ## A base with a fragment -/

/-- A configuration for the public API. -/
def sampleConfig : Config :=
  .new (.ofRandom 0) (sample "").key

theorem exists_configured_of_parse {text : String} {url : Url} (h : Url.parse text = .ok url) :
    ∃ configured, sampleConfig.withBaseUrl text = .ok configured ∧
      ofConfig configured = .ok (sample url.base) ∧ configured.baseUrl = url := by
  have hfits : sampleConfig.key.fitsHeader = true := by decide +kernel
  exact ⟨_, Config.withBaseUrl_of_parse sampleConfig h, if_pos hfits, rfl⟩

/-- A request that can be put together reaches the server. -/
theorem mem_requests_of_sent? {client : Client} {inquiry : Inquiry} {request : Request}
    (h : client.sent? inquiry.exchange = some request) :
    request ∈ ((client.perform inquiry.exchange).run (.scripted [])).requests := by
  have hrun := comesTo_perform inquiry.read_exchange h
    (Server.headD_ne_unreachable List.not_mem_nil)
  rw [hrun.requests_eq]
  exact List.mem_cons_self

/-- A base with a user, a port, and slashes at its end. -/
def sampleBase : Url :=
  ⟨false, ⟨"user".toList, some "word".toList⟩, .domain ['h'], some 8080, ["v1".toList, [], []],
    none, none⟩

theorem requests_under_base_sample :
    ∃ configured client,
      sampleConfig.withBaseUrl "http://user:word@h:8080/v1//" = .ok configured ∧
        ofConfig configured = .ok client ∧
        ∃ request ∈
            ((client.perform (Inquiry.page (.ofRandom 0)).exchange).run (.scripted [])).requests,
          request.url.host = .domain ['h'] ∧ request.url.port = some 8080 ∧
            request.url.pathChars = "/v1/pages/00000000-0000-4000-8000-000000000000".toList := by
  have hparse : Url.parse "http://user:word@h:8080/v1//" = .ok sampleBase := by decide +kernel
  have hplain : sampleBase.host.IsPlain := by
    change ∀ label ∈ Text.splitAt '.' ['h'], Domain.encodedMark.isPrefixOf label = false
    decide +kernel
  have hpath : Text.dropEndWhile (· == '/') sampleBase.pathChars ++
        '/' :: (Inquiry.page (.ofRandom 0)).endpoint.toList =
      "/v1/pages/00000000-0000-4000-8000-000000000000".toList := by decide +kernel
  obtain ⟨configured, hconfig, hclient, hbase⟩ := exists_configured_of_parse hparse
  obtain ⟨hunder, hexists⟩ := requests_under_base hconfig hclient (.page (.ofRandom 0))
  rw [hbase] at hunder hexists
  obtain ⟨request, hr⟩ := hexists hplain
  have hsendable : ((sample sampleBase.base).request? (Inquiry.page (.ofRandom 0)).exchange).map
      Request.isSendable = some true := by decide +kernel
  rw [hr] at hsendable
  have hm := mem_requests_of_sent? (Option.filter_eq_some_iff.2 ⟨hr, Option.some.inj hsendable⟩)
  obtain ⟨-, hhost, hport, hiff⟩ := hunder _ request hm
  exact ⟨configured, _, hconfig, hclient, request, hm, hhost, hport,
    (hiff.2 ⟨rfl, rfl⟩).trans hpath⟩

/-- A base with a fragment. -/
def sampleBaseWithFragment : Url :=
  ⟨false, .none, .domain ['h'], none, ["v1".toList], none, some ['f']⟩

/-- The request is then for the base itself. -/
theorem request_with_fragment :
    ∃ configured client, sampleConfig.withBaseUrl "http://h/v1#f" = .ok configured ∧
      ofConfig configured = .ok client ∧
      ∃ request ∈
          ((client.perform (Inquiry.page (.ofRandom 0)).exchange).run (.scripted [])).requests,
        request.target = "http://h/v1" := by
  have hparse : Url.parse "http://h/v1#f" = .ok sampleBaseWithFragment := by decide +kernel
  have hsent : ((sample sampleBaseWithFragment.base).sent?
      (Inquiry.page (.ofRandom 0)).exchange).map (·.target) = some "http://h/v1" := by
    decide +kernel
  obtain ⟨configured, hconfig, hclient, -⟩ := exists_configured_of_parse hparse
  obtain ⟨request, hr, ht⟩ := Option.map_eq_some_iff.1 hsent
  exact ⟨configured, _, hconfig, hclient, request, mem_requests_of_sent? hr, ht⟩

end Client

end NotionProject
