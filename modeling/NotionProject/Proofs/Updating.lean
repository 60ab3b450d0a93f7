import NotionProject.Proofs.Creating

/-!
# What a change sends

A page is changed in one turn, and `Members.IsChange` says what the body of its one request has: the
properties that may be written, if any properties were given, the mark that the page is archived, if
that is asked for, and nothing else. Properties are given if there are some before those are left
out that the server assigns, so a change of nothing but such properties has an empty object for them
(`Members.IsChange.empty_iff`). Every other change has properties exactly if some are left
(`Members.IsChange.properties_iff_of_left`).

Whether the request can be put together is a matter of the base URL alone, as an endpoint with an
identifier is short (`Client.isSome_sent?_of_fits`).
-/

namespace NotionProject

/-! ## Bodies -/

/-- The members of the body of a change. -/
structure Members.IsChange (given : Option Properties) (archived : Bool) (members : Members Json) :
    Prop where
  nodup : members.names.Nodup
  known : ∀ name ∈ members.names, name = "properties" ∨ name = "archived"
  properties_iff : ∀ value, ("properties", value) ∈ members ↔
    ∃ properties, given = some properties ∧ properties ≠ [] ∧ value = .object properties.unassigned
  archived_iff : ∀ value, ("archived", value) ∈ members ↔ archived = true ∧ value = .bool true

namespace Members.IsChange

variable {given : Option Properties} {archived : Bool} {members : Members Json}

/-- An empty object is sent exactly if properties are given and none of them is left. -/
theorem empty_iff (h : members.IsChange given archived) : ("properties", .object []) ∈ members ↔
    ∃ properties, given = some properties ∧ properties ≠ [] ∧ properties.unassigned = [] := by
  rw [h.properties_iff]
  refine exists_congr fun properties => and_congr_right fun _ => and_congr_right fun _ => ?_
  rw [Json.object.injEq, eq_comm]

/-- Unless all that is given is left out, properties are sent exactly if some are left. -/
theorem properties_iff_of_left (h : members.IsChange given archived)
    (hleft : ∀ properties, given = some properties → properties.unassigned = [] → properties = [])
    (value : Json) : ("properties", value) ∈ members ↔ ∃ properties, given = some properties ∧
      properties.unassigned ≠ [] ∧ value = .object properties.unassigned := by
  rw [h.properties_iff]
  refine exists_congr fun properties => and_congr_right fun hgiven => and_congr_left fun _ => ?_
  refine not_congr ⟨?_, hleft properties hgiven⟩
  rintro rfl
  rfl

end Members.IsChange

/-- The change of a page that sends what may be written of the properties given. -/
def PageUpdate.ofGiven (given : Option Properties) (archived : Bool) : PageUpdate :=
  ⟨(given.filter (!·.isEmpty)).map Properties.writable, if archived then some true else none⟩

/-- The members of the body of a change, in order. -/
def PageUpdate.members (update : PageUpdate) : Members Json :=
  (update.properties.map fun properties => ("properties", properties.toJson)).toList ++
    (update.archived.map fun archived => ("archived", .bool archived)).toList

theorem PageUpdate.toJson_eq (update : PageUpdate) : update.toJson = .object update.members := by
  rcases update with ⟨_ | properties, _ | archived⟩ <;> rfl

theorem PageUpdate.isChange_ofGiven (given : Option Properties) (archived : Bool) :
    (ofGiven given archived).members.IsChange given archived := by
  have hwritable : ∀ properties : Properties,
      properties.writable.toJson = .object properties.unassigned := fun _ => rfl
  rcases given with _ | _ | ⟨member, rest⟩ <;> cases archived
  all_goals
    constructor <;> simp [ofGiven, members, Members.names, Option.filter, hwritable]

/-! ## Requests that can be put together -/

/-- How much longer a URL gets at most by the pairs of a form. -/
def Form.room (form : Form) : Nat :=
  if form.isEmpty then 0 else form.encode.length + 1

namespace Client

variable {client : Client}

/-- The base leaves room for endpoints of a length, and a request can hold its host. -/
structure Fits (base : Url) (length : Nat) : Prop where
  host_read : ∃ host, Host.parse base.host.chars = .ok host
  host_sendable : base.host.chars.any Request.isUnsendable = false
  length_le : base.chars.length + (length + 1) ≤ Request.maxUrlLength

theorem Fits.mono {base : Url} {length other : Nat} (h : Fits base other) (hle : length ≤ other) :
    Fits base length where
  host_read := h.host_read
  host_sendable := h.host_sendable
  length_le := by
    have := h.length_le
    omega

/-- The pairs of a query make a URL longer by no more than they take. -/
theorem length_addQuery_le (method : Method) (query : Form) (url : Url) :
    (addQuery method query url).chars.length ≤ url.chars.length + query.room := by
  cases query with
  | nil => exact (length_addQuery_nil method url).1
  | cons pair query =>
    unfold addQuery
    split
    · have hlength := length_chars_with url url.userInfo (url.withForm (pair :: query)).query
      have hmark : (Url.marked '?' (url.withForm (pair :: query)).query).length ≤
          (Url.marked '?' url.query).length + Form.room (pair :: query) := by
        rcases hold : url.query with _ | _ | ⟨c, old⟩ <;>
          simp only [Url.withForm, hold, Form.room, Option.getD, List.isEmpty]
        all_goals split <;> simp [Url.marked]
        omega
      change (url.withForm (pair :: query)).chars.length + _ = _ at hlength
      omega
    · omega

/-- Below a base that leaves room for the endpoint and the pairs of a query, the request of an
inquiry can be put together. -/
theorem isSome_sent?_of_room {base : Url} (hbase : client.base = base.base) (h : base.IsNormal)
    {inquiry : Inquiry}
    (hfits : Fits base (inquiry.endpoint.toList.length + inquiry.exchange.query.room)) :
    (client.sent? inquiry.exchange).isSome := by
  obtain ⟨host, hhost⟩ := hfits.host_read
  have hsendable : (client.requestTo inquiry.exchange
      (base.joined inquiry.names)).isSendable = true := by
    have hlength := client.length_url_requestTo inquiry.exchange (base.joined inquiry.names)
    have hmost := length_addQuery_le inquiry.exchange.method inquiry.exchange.query
      (base.joined inquiry.names)
    have hjoined : (base.joined inquiry.names).chars.length =
        (Text.dropEndWhile (· == '/') base.chars).length +
          (inquiry.endpoint.toList.length + 1) := by
      rw [Url.chars_joined h inquiry.names_ne_nil, Url.extended, ← inquiry.toList_endpoint,
        List.length_append, List.length_cons]
    have hdropped := (Text.isPrefix_dropEndWhile (· == '/') base.chars).length_le
    have hle := hfits.length_le
    simp only [Request.isSendable, host_url_requestTo, Url.host_joined, Bool.and_eq_true,
      decide_eq_true_eq, hfits.host_sendable, Bool.not_false, and_true]
    omega
  rw [sent?, request?_exchange hbase h, hhost]
  simp [Option.filter, hsendable, Except.toOption]

/-- Without pairs, room for the endpoint is enough. -/
theorem isSome_sent?_of_fits {base : Url} (hbase : client.base = base.base) (h : base.IsNormal)
    {inquiry : Inquiry} (hquery : inquiry.exchange.query = [])
    (hfits : Fits base inquiry.endpoint.toList.length) :
    (client.sent? inquiry.exchange).isSome :=
  isSome_sent?_of_room hbase h (by rwa [hquery])

end Client

namespace Identifier

/-- An identifier in groups has thirty-six characters. -/
theorem length_hyphenated (id : Identifier) : id.hyphenated.toList.length = 36 := by
  simp [hyphenated, id.length_digits]

end Identifier

namespace Project

open Call

variable {project : Project} {replies : List Reply}

theorem comesTo_writable (properties : Properties) (server : Server) :
    ((writable properties).run server).ComesTo (.ok properties.writable) [] server :=
  (comesTo_logAll _ _ server).after (comesTo_pure _ server)

theorem comesTo_givenProperties (given : Option Properties) (server : Server) :
    ((givenProperties given).run server).ComesTo
      (.ok ((given.filter (!·.isEmpty)).map Properties.writable)) [] server := by
  match given with
  | none => exact comesTo_pure none server
  | some [] => exact comesTo_pure none server
  | some (member :: rest) =>
    exact (comesTo_writable (member :: rest) server).after (comesTo_pure _ server)

/-- A page is changed in one turn. -/
theorem comesTo_updatePage {page : Identifier} {given : Option Properties} {archived : Bool}
    {outcome : Except Failure Page} {requests : List Request} {server left : Server}
    (h : ((project.client.perform (Endpoint.updatePage page (.ofGiven given archived))).run
      server).ComesTo outcome requests left) :
    ((project.updatePage page given archived).run server).ComesTo (outcome.map id) requests left :=
  (comesTo_givenProperties given server).after (h.logResult .debug _ id)

/-! ## Changing once -/

/-- All that is asked is one request for a change of the page, with a body of the members: it is
made if it can be put together, and that it can be below every base that leaves room for it. -/
structure PatchesOnce (base : Url) (client : Client) (page : Identifier) (members : Members Json)
    (run : Run Page) : Prop where
  requests_eq : run.requests = (client.sent? (Endpoint.send .patch ("pages/" ++ page.hyphenated)
    (.object members) Page.decode)).toList
  isFor : ∀ request ∈ run.requests,
    request.IsFor base .patch ("pages/" ++ page.hyphenated) (some (.object members))
  length_eq : Client.Fits base 42 → run.requests.length = 1

section Configured

variable {config configured : Config} {text : String}
  (hconfig : config.withBaseUrl text = .ok configured)
  (hproject : ofConfig configured = .ok project)

include hconfig hproject

theorem patchesOnce_updatePage (page : Identifier) (given : Option Properties) (archived : Bool)
    (hu : .unreachable ∉ replies) :
    PatchesOnce configured.baseUrl project.client page (PageUpdate.ofGiven given archived).members
      ((project.updatePage page given archived).run (.scripted replies)) := by
  have hrequests : ((project.updatePage page given archived).run (.scripted replies)).requests =
      (project.client.sent? (Endpoint.updatePage page (.ofGiven given archived))).toList :=
    (comesTo_updatePage ⟨rfl, rfl, rfl⟩).requests_eq.trans (Client.requests_perform rfl hu)
  have hasks := asksOnly_of_requests_eq hconfig hproject
    (.updatePage page (.ofGiven given archived)) hrequests
  have hbody := (PageUpdate.ofGiven given archived).toJson_eq
  refine ⟨?_, fun request hm => ?_, fun hfits => ?_⟩
  · rw [hrequests, Endpoint.updatePage, hbody]
  · rw [← hbody]
    exact hasks.isFor request hm
  · have hlength : (Inquiry.updatePage page (.ofGiven given archived)).endpoint.toList.length =
        42 := by
      simp [Inquiry.endpoint, String.toList_append, page.length_hyphenated]
    obtain ⟨request, hsent⟩ := Option.isSome_iff_exists.1 (Client.isSome_sent?_of_fits
      (base_of_ofConfig hproject) (Config.isNormal_baseUrl hconfig) rfl (hlength ▸ hfits))
    rw [hrequests]
    exact congrArg (fun sent : Option Request => sent.toList.length) hsent

/-- Against every list of replies a page is changed with one request, whose body has the properties
that may be written just if any properties were given, the mark of an archived page just if that was
asked for, and no other member. Unless all that is given is left out, it has properties exactly if
some are left; and if all is left out, they are an empty object. -/
theorem updates_once (hu : .unreachable ∉ replies) (page : Identifier) (given : Option Properties)
    (archived : Bool) : ∃ members : Members Json,
      PatchesOnce configured.baseUrl project.client page members
        ((project.updatePage page given archived).run (.scripted replies)) ∧
      members.IsChange given archived ∧
      ((∀ properties, given = some properties → properties.unassigned = [] → properties = []) →
        ∀ value, ("properties", value) ∈ members ↔ ∃ properties, given = some properties ∧
          properties.unassigned ≠ [] ∧ value = .object properties.unassigned) ∧
      (("properties", .object []) ∈ members ↔ ∃ properties, given = some properties ∧
        properties ≠ [] ∧ properties.unassigned = []) := by
  have hchange := PageUpdate.isChange_ofGiven given archived
  exact ⟨_, patchesOnce_updatePage hconfig hproject page given archived hu, hchange,
    hchange.properties_iff_of_left, hchange.empty_iff⟩

end Configured

/-- The public API leaves room for the endpoint of a page. -/
theorem fits_publicBase : Client.Fits Config.publicBase 42 where
  host_read := ⟨.domain "api.notion.com".toList, by decide +kernel⟩
  host_sendable := by decide +kernel
  length_le := by decide +kernel

/-- A unique identifier, which the server assigns, and a mark that is written. -/
def sampleGiven : Properties :=
  [("ID", .typed (.uniqueId ⟨none, some 3⟩)), ("Done", .typed (.checkbox true))]

/-- Of two properties one is sent to the public API, with the mark of an archived page. -/
theorem updates_once_sample : ∃ configured project,
    Client.sampleConfig.withBaseUrl "https://api.notion.com/v1" = .ok configured ∧
      ofConfig configured = .ok project ∧ .unreachable ∉ [Reply.dropped] ∧
      ∃ request, ((project.updatePage (.ofRandom 1) (some sampleGiven) true).run
          (.scripted [.dropped])).requests = [request] ∧ request.method = .patch ∧
        ∃ members : Members Json, request.body = some (.object members) ∧
          ("archived", .bool true) ∈ members ∧
          ("properties", .object [("Done",
            .object [("type", .string "checkbox"), ("checkbox", .bool true)])]) ∈ members := by
  have hparse : Url.parse "https://api.notion.com/v1" = .ok Config.publicBase := by decide +kernel
  obtain ⟨configured, hconfig, hproject, hurl⟩ := exists_configured_of_parse hparse rfl
  have hu : .unreachable ∉ [Reply.dropped] := by decide
  refine ⟨configured, _, hconfig, hproject, hu, ?_⟩
  obtain ⟨members, hpatches, hchange, hleft, -⟩ :=
    updates_once hconfig hproject hu (.ofRandom 1) (some sampleGiven) true
  obtain ⟨request, hrequest⟩ :=
    List.length_eq_one_iff.1 (hpatches.length_eq (hurl ▸ fits_publicBase))
  have hfor := hpatches.isFor request (hrequest ▸ List.mem_singleton_self request)
  have hsome : sampleGiven.unassigned ≠ [] := by decide +kernel
  refine ⟨request, hrequest, hfor.method_eq, members, hfor.body_eq,
    (hchange.archived_iff _).2 ⟨rfl, rfl⟩, (hleft ?_ _).2 ⟨sampleGiven, rfl, hsome, rfl⟩⟩
  rintro _ ⟨⟩ hnone
  exact absurd hnone hsome

/-- A change of a unique identifier alone has an empty object of properties. -/
theorem sends_empty_properties :
    let given : Properties := [("ID", .typed (.uniqueId ⟨none, some 3⟩))]
    let project : Project := ⟨.ofRandom 0, .sample "https://api.notion.com/v1"⟩
    let run := (project.updatePage (.ofRandom 1) (some given) false).run (.scripted [])
    given.unassigned = [] ∧ ∃ request, run.requests = [request] ∧
      request.body = some (.object [("properties", .object [])]) := by
  intro given project run
  have hsent : (project.client.sent? (Endpoint.updatePage (.ofRandom 1)
      (.ofGiven (some given) false))).map Request.bodyText? =
        some (some "\x7b\"properties\":\x7b\x7d\x7d") := by decide +kernel
  obtain ⟨request, hrequest, -⟩ := Option.map_eq_some_iff.1 hsent
  have hrun : run.requests = (project.client.sent? (Endpoint.updatePage (.ofRandom 1)
      (.ofGiven (some given) false))).toList :=
    (comesTo_updatePage ⟨rfl, rfl, rfl⟩).requests_eq.trans
      (Client.requests_perform rfl List.not_mem_nil)
  refine ⟨rfl, request, by rw [hrun, hrequest]; rfl, ?_⟩
  exact Client.body_of_request? (Option.filter_eq_some_iff.1 hrequest).1

end Project

end NotionProject
