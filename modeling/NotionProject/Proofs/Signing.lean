import NotionProject.Proofs.Asking
import NotionProject.Proofs.Operation
import NotionProject.Proofs.Url.Origin

/-!
# How requests are signed

Whatever the endpoint, the URL of a request has the name and the password of the base
(`Url.origin_of_parse_append`), and these decide how it is signed: a name or a password signs it in
place of the key (`Client.isSigned_of_request?`). A call makes no requests but those of its
inquiries (`Operation.onlySends_call`), so this is how all of them are signed
(`Project.signs_all_requests`).
-/

namespace NotionProject

variable {α : Type}

/-- The header fields of a request. The name and the password of the base sign it if there are any,
and else the key does. -/
structure Request.IsSigned (key : ApiKey) (info : UserInfo) (request : Request) : Prop where
  version_eq : request.version = "2022-06-28"
  contentType_eq : request.contentType = "application/json"
  authorization_eq : request.authorization = (Client.basic? info).getD ("Bearer " ++ key.text)

/-! ## Requests -/

theorem Client.exists_basic?_eq {info : UserInfo} {signature : String}
    (h : basic? info = some signature) : ∃ rest, signature = "Basic " ++ rest := by
  obtain ⟨name, -, h⟩ := Option.bind_eq_some_iff.1 h
  dsimp only at h
  split at h
  · cases h
  · exact ⟨_, (Option.some.inj h).symm⟩

/-- A request is signed by the key if nothing in the base signs it, and only then. -/
theorem Request.IsSigned.bearer_iff {key : ApiKey} {info : UserInfo} {request : Request}
    (h : request.IsSigned key info) :
    request.authorization = "Bearer " ++ key.text ↔ Client.basic? info = none := by
  rw [h.authorization_eq]
  cases hs : Client.basic? info with
  | none => simp
  | some signature =>
    obtain ⟨rest, rfl⟩ := Client.exists_basic?_eq hs
    refine iff_of_false (fun he => ?_) (by simp)
    have hsecond := congrArg (fun text : String => text.toList[1]?) he
    simp [String.toList_append] at hsecond

namespace Client

variable {client : Client} {base : Url}

/-- A request is signed by the user of the base URL, and else by the key. -/
theorem isSigned_requestTo (client : Client) (exchange : Exchange α) (url : Url) :
    (client.requestTo exchange url).IsSigned client.key url.userInfo := by
  simp only [requestTo, userInfo_addQuery]
  cases hs : basic? url.userInfo with
  | none => exact ⟨rfl, rfl, by rw [hs]; rfl⟩
  | some signature => exact ⟨rfl, rfl, by rw [hs]; rfl⟩

/-- Every request below a base is signed as the base says, whatever the endpoint. -/
theorem isSigned_of_request? (hbase : client.base = base.base) (h : base.IsNormal)
    {exchange : Exchange α} {request : Request} (hr : client.request? exchange = some request) :
    request.IsSigned client.key base.userInfo := by
  unfold request? address at hr
  rw [hbase] at hr
  split at hr
  · next url hurl =>
    cases hr
    obtain ⟨-, hinfo, -, -⟩ := Url.origin_of_parse_append h hurl
    rw [← hinfo]
    exact client.isSigned_requestTo exchange url
  · cases hr

end Client

/-! ## Operations -/

/-- All requests of the call have the property, whatever the server. -/
abbrev Call.OnlySends (sends : Request → Prop) (call : Call α) : Prop :=
  call.Confined sends fun _ => True

open Call

namespace Project

variable {project : Project} {sends : Request → Prop}
  (h : ∀ inquiry : Inquiry, (project.client.perform inquiry.exchange).OnlySends sends)

include h

theorem onlySends_matchingChildren (kind : Kind) (parent : Identifier) (title : String) :
    (project.matchingChildren kind parent title).OnlySends sends :=
  confined_matchingChildren (fun parent cursor => h (.children parent cursor))
    (fun id => h (.database id)) kind parent title

theorem onlySends_pageExists (id : Identifier) : (project.pageExists id).OnlySends sends := by
  refine (h (.page id)).attempt.bind fun outcome => ?_
  cases outcome with
  | ok page => exact confined_pure _
  | error failure =>
    dsimp only
    split
    · exact (confined_log _ _).bind fun _ => confined_pure _
    · exact (confined_log _ _).bind fun _ => confined_pure _

end Project

namespace Operation

/-- An operation sends nothing that none of its inquiries sends. -/
theorem onlySends_call {project : Project} {sends : Request → Prop}
    (h : ∀ inquiry : Inquiry, (project.client.perform inquiry.exchange).OnlySends sends)
    (operation : Operation) : (operation.call project).OnlySends sends := by
  cases operation with
  | findOnly kind parent title =>
    exact (Project.onlySends_matchingChildren h kind parent title).bind fun _ =>
      confined_ofExcept fun _ _ => trivial
  | findAll kind parent title =>
    exact (Project.onlySends_matchingChildren h kind parent title).bind fun _ =>
      confined_ofExcept fun _ _ => trivial
  | sectionPage part =>
    exact (Project.onlySends_matchingChildren h .page project.root part.title).bind fun _ =>
      confined_ofExcept fun _ _ => trivial
  | lookupPage id =>
    refine (h (.page id)).attempt.bind fun outcome => ?_
    cases outcome with
    | ok page => exact confined_pure _
    | error failure =>
      dsimp only
      split
      · exact confined_pure _
      · exact confined_fail trivial
  | pageExists id => exact Project.onlySends_pageExists h id
  | hasStructure id =>
    refine (Project.onlySends_pageExists h id).bind fun found => ?_
    split
    · refine (h (.children id none)).attempt.bind fun outcome => ?_
      cases outcome with
      | error failure => exact (confined_log _ _).bind fun _ => confined_pure _
      | ok listing =>
        dsimp only
        split
        · exact confined_pure _
        · exact (confined_log _ _).bind fun _ => confined_pure _
    · exact (confined_log _ _).bind fun _ => confined_pure _
  | createPage parent title =>
    refine (Project.onlySends_pageExists h parent).bind fun found => ?_
    split
    · exact (h (.createPage _)).bind fun page => (confined_log _ _).bind fun _ => confined_pure _
    · exact confined_fail trivial
  | createDatabase parent title schema =>
    exact (h (.createDatabase _)).bind fun database => (confined_log _ _).bind fun _ =>
      confined_pure _
  | database id => exact h (.database id)
  | createRecord id properties parent =>
    exact (Project.confined_writable properties).bind fun _ => (h (.createPage _)).bind fun _ =>
      (confined_log _ _).bind fun _ => confined_pure _
  | updatePage id properties archived =>
    exact (Project.confined_givenProperties properties).bind fun _ =>
      (h (.updatePage id _)).bind fun _ => (confined_log _ _).bind fun _ => confined_pure _
  | queryDatabase id options =>
    exact (Walk.confined_all fun cursor => h (.query id (Project.partQuery options cursor))).bind
      fun walk => (confined_log _ _).bind fun _ => confined_pure _
  | children parent cursor => exact h (.children parent cursor)

end Operation

theorem Config.key_withBaseUrl {config configured : Config} {text : String}
    (h : config.withBaseUrl text = .ok configured) : configured.key = config.key := by
  unfold withBaseUrl at h
  split at h
  · cases h
    rfl
  · cases h

namespace Project

/-- A project signs with the key of its configuration. -/
theorem key_of_ofConfig {config : Config} {project : Project} (h : ofConfig config = .ok project) :
    project.client.key = config.key := by
  obtain ⟨client, hclient, h⟩ := bind_eq_ok_iff.1 h
  cases h
  unfold Client.ofConfig at hclient
  split at hclient
  · cases hclient
    rfl
  · cases hclient

/-- Every request of an operation, and every request to any endpoint, asks for the one version of
the API and has a body of the one form. The key signs it, unless a name or a password in the base
URL does. -/
theorem signs_all_requests {config configured : Config} {text : String} {project : Project}
    (hconfig : config.withBaseUrl text = .ok configured)
    (hproject : ofConfig configured = .ok project) :
    let info := configured.baseUrl.userInfo
    (∀ (operation : Operation) (server : Server),
      ∀ request ∈ ((operation.call project).run server).requests,
        request.IsSigned config.key info ∧
          (request.authorization = "Bearer " ++ config.key.text ↔ Client.basic? info = none)) ∧
    (∀ method endpoint query body (server : Server),
      ∀ request ∈ ((project.client.perform
          (Endpoint.raw method endpoint query body)).run server).requests,
        request.IsSigned config.key info ∧
          (request.authorization = "Bearer " ++ config.key.text ↔ Client.basic? info = none)) ∧
    (info = .none → Client.basic? info = none) := by
  intro info
  have hbase := base_of_ofConfig hproject
  have hnormal := Config.isNormal_baseUrl hconfig
  have hkey : project.client.key = config.key :=
    (key_of_ofConfig hproject).trans (Config.key_withBaseUrl hconfig)
  have hsigned : ∀ {α : Type} {exchange : Exchange α} {request : Request},
      project.client.request? exchange = some request → request.IsSigned config.key info := by
    intro α exchange request hr
    rw [← hkey]
    exact Client.isSigned_of_request? hbase hnormal hr
  refine ⟨fun operation server request hm => ?_,
    fun method endpoint query body server request hm => ?_, ?_⟩
  · have hsends := Operation.onlySends_call (fun inquiry =>
      (project.client.confined_perform inquiry.read_exchange).mono
        (fun _ h => hsigned h.1) fun _ _ => trivial) operation
    have h := (hsends server).sends_of_mem request hm
    exact ⟨h, h.bearer_iff⟩
  · have hread : ∀ {sends : Request → Prop} (answer : Answer),
        ((Endpoint.raw method endpoint query body).read answer).Confined sends
          Failure.IsOfExchange := by
      cases method <;> exact fun answer => confined_pure answer
    have h := hsigned ((project.client.confined_perform_of_read hread server).sends_of_mem request
      hm).1
    exact ⟨h, h.bearer_iff⟩
  · rintro h
    rw [h]
    decide +kernel

theorem mem_requests_database {project : Project} {id : Identifier} {request : Request}
    (h : project.client.sent? (Endpoint.database id) = some request) :
    request ∈ (((Operation.database id).call project).run (.scripted [])).requests :=
  @Client.mem_requests_of_sent? _ (.database id) _ h

/-- A base without a user. -/
theorem signs_all_requests_sample : ∃ configured,
    Client.sampleConfig.withBaseUrl "http://h/v1" = .ok configured ∧
      ofConfig configured = .ok ⟨.ofRandom 0, .sample "http://h/v1"⟩ ∧
      ∃ request ∈ (((Operation.database (.ofRandom 1)).call
          ⟨.ofRandom 0, .sample "http://h/v1"⟩).run (.scripted [])).requests,
        request.authorization = "Bearer " ++ Client.sampleConfig.key.text ∧
          request.version = "2022-06-28" ∧ request.contentType = "application/json" := by
  obtain ⟨configured, hconfig, hproject, hbase⟩ := exists_configured_sample
  refine ⟨configured, hconfig, hproject, ?_⟩
  have hsent : ((Client.sample "http://h/v1").sent? (Endpoint.database (.ofRandom 1))).isSome =
      true := by decide +kernel
  obtain ⟨request, hrequest⟩ := Option.isSome_iff_exists.1 hsent
  have hm := @mem_requests_database ⟨.ofRandom 0, .sample "http://h/v1"⟩ _ _ hrequest
  obtain ⟨hoperations, -, hnone⟩ := signs_all_requests hconfig hproject
  obtain ⟨hsigned, hiff⟩ := hoperations (.database (.ofRandom 1)) (.scripted []) request hm
  exact ⟨request, hm, hiff.2 (hnone (by rw [hbase])), hsigned.version_eq, hsigned.contentType_eq⟩

/-- A name and a password in the base sign a request in place of the key. -/
theorem signs_with_user : ∃ configured,
    Client.sampleConfig.withBaseUrl "http://user:word@h/v1" = .ok configured ∧
      ofConfig configured = .ok ⟨.ofRandom 0, .sample "http://user:word@h/v1"⟩ ∧
      ∃ request ∈ (((Operation.database (.ofRandom 1)).call
          ⟨.ofRandom 0, .sample "http://user:word@h/v1"⟩).run (.scripted [])).requests,
        request.authorization = "Basic dXNlcjp3b3Jk" ∧
          request.authorization ≠ "Bearer " ++ Client.sampleConfig.key.text := by
  have hparse : Url.parse "http://user:word@h/v1" =
      .ok ⟨false, ⟨"user".toList, some "word".toList⟩, .domain ['h'], none, ["v1".toList], none,
        none⟩ := by decide +kernel
  have hbase : Url.base ⟨false, ⟨"user".toList, some "word".toList⟩, .domain ['h'], none,
      ["v1".toList], none, none⟩ = "http://user:word@h/v1" := by decide +kernel
  obtain ⟨configured, hconfig, hproject, -⟩ := exists_configured_of_parse hparse hbase
  refine ⟨configured, hconfig, hproject, ?_⟩
  have hsent : ((Client.sample "http://user:word@h/v1").sent?
      (Endpoint.database (.ofRandom 1))).map Request.authorization =
        some "Basic dXNlcjp3b3Jk" := by decide +kernel
  obtain ⟨request, hrequest, hbasic⟩ := Option.map_eq_some_iff.1 hsent
  refine ⟨request, mem_requests_database hrequest, hbasic, ?_⟩
  rw [hbasic]
  decide +kernel

end Project

end NotionProject
