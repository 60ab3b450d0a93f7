import NotionProject.Proofs.Confinement
import NotionProject.Proofs.Reading
import NotionProject.Proofs.Turn
import NotionProject.Records

/-!
# What is written of properties

A value that the server assigns is known by its marker. That is the name of its kind if the value
is typed, and its member `type` if it is kept as it is; and what is written has a member `type`
too. For every value that was read all three agree (`PropertyValue.hasType_toJson_iff`).

So `Properties.writable`, which goes by the marker, leaves out exactly the values that would be
written with the type `unique_id`. `body_of_write` says what that means for the requests by which
records are created and pages are changed: their bodies hold all other properties, in order, and
none of that type.
-/

namespace NotionProject

/-! ## Markers -/

/-- The value is an object, and a member `type` of it is the text. -/
def Json.HasType (kind : String) (value : Json) : Prop :=
  ∃ members, value = .object members ∧ ("type", .string kind) ∈ members

namespace TypedProperty

theorem marker_ne_type (value : TypedProperty) : value.marker ≠ "type" := by
  cases value <;> simp [marker]

/-- A typed value is written with its marker as the type. -/
theorem hasType_toJson_iff {kind : String} (value : TypedProperty) :
    value.toJson.HasType kind ↔ value.marker = kind := by
  simp [Json.HasType, toJson, value.marker_ne_type.symm, eq_comm]

end TypedProperty

namespace PropertyValue

/-- A value that was read is typed, or if it is an object no name is there twice. -/
theorem typed_or_nodup {source : Source} {value : PropertyValue} (h : decode source = .ok value) :
    (∃ known, value = typed known) ∨
      ∃ json, value = untyped json ∧
        ∀ members, json = .object members → (Members.names members).Nodup := by
  obtain ⟨json, hj, h⟩ := bind_eq_ok_iff.1 h
  cases hu : TypedProperty.union.decode source with
  | ok known =>
    rw [hu] at h
    cases h
    exact Or.inl ⟨known, rfl⟩
  | error error =>
    rw [hu] at h
    cases h
    refine Or.inr ⟨json, rfl, ?_⟩
    rintro members rfl
    exact (Source.rising_of_toJson (ofTextError_eq_ok_iff.1 hj)).nodup

/-- The marker of a value that was read is the type with which it is written. -/
theorem hasType_toJson_iff {source : Source} {value : PropertyValue}
    (h : decode source = .ok value) {kind : String} :
    value.toJson.HasType kind ↔ value.marker? = some kind := by
  rcases typed_or_nodup h with ⟨known, rfl⟩ | ⟨json, rfl, hnodup⟩
  · simpa [toJson, marker?] using known.hasType_toJson_iff
  · cases json with
    | object members =>
      have hfind : Members.find? members "type" = some (.string kind) ↔ _ :=
        Members.find?_eq_some_iff (hnodup members rfl)
      have hstring : ∀ value : Json, value.asString? = some kind ↔ value = .string kind := by
        intro value
        cases value <;> simp [Json.asString?]
      simp only [toJson, marker?, Json.HasType, Json.member?, Json.object.injEq, exists_eq_left',
        ← hfind, Option.bind_eq_some_iff, hstring, exists_eq_right]
    | null => simp [toJson, marker?, Json.HasType, Json.member?]
    | bool b => simp [toJson, marker?, Json.HasType, Json.member?]
    | number n => simp [toJson, marker?, Json.HasType, Json.member?]
    | string s => simp [toJson, marker?, Json.HasType, Json.member?]
    | array items => simp [toJson, marker?, Json.HasType, Json.member?]

end PropertyValue

/-! ## What may be written -/

namespace Properties

/-- The properties without the marker of unique identifiers, in order, as they are written. -/
def unassigned (properties : Properties) : List (String × Json) :=
  (properties.filter fun member => member.2.marker? != some "unique_id").map fun member =>
    (member.1, member.2.toJson)

/-- Of properties that were read, none is written with the type of unique identifiers. -/
theorem not_hasType_of_mem_unassigned {source : Source} {properties : Properties}
    (h : decode source = .ok properties) :
    ∀ entry ∈ properties.unassigned, ¬entry.2.HasType "unique_id" := by
  intro entry hm
  obtain ⟨member, hkept, rfl⟩ := List.mem_map.1 hm
  obtain ⟨hmember, hmarker⟩ := List.mem_filter.1 hkept
  obtain ⟨source, hread⟩ := Decoder.exists_read_of_mem h member hmember
  rw [PropertyValue.hasType_toJson_iff hread]
  simpa using hmarker

theorem writable_writable (properties : Properties) :
    properties.writable.writable = properties.writable := by
  simp [writable]

end Properties

/-! ## Requests -/

namespace Client

variable {α : Type} {client : Client}

theorem body_of_request? {exchange : Exchange α} {request : Request}
    (h : client.request? exchange = some request) : request.body = exchange.body := by
  unfold request? at h
  split at h
  · obtain rfl := Option.some.inj h
    unfold requestTo
    dsimp only
    split <;> rfl
  · cases h

/-- A request with a body has the body of its exchange. -/
theorem confined_send_body {method : Method} {endpoint : String} {body : Json}
    {decode : Decoder α} {fails : Failure → Prop} (hf : ∀ failure, fails failure) :
    (client.perform (Endpoint.send method endpoint body decode)).Confined
      (fun request => request.body = some body) fails :=
  (client.confined_perform rfl).mono (fun _ h => body_of_request? h.1) fun failure _ => hf failure

end Client

namespace Project

open Call

variable {sends : Request → Prop} {fails : Failure → Prop}

theorem confined_writable (properties : Properties) :
    (writable properties).Confined sends fails :=
  (confined_logAll _ _).bind fun _ => confined_pure _

/-- A record is created with what may be written of its properties. -/
theorem body_of_createRecord (project : Project) (database : Identifier)
    (properties : Properties) (parent : Option Parent) (server : Server) :
    ∀ request ∈ ((project.createRecord database properties parent).run server).requests,
      request.body = some (NewPage.toJson ⟨parent.getD (.database database),
        properties.writable⟩) := by
  have hc : ∀ {sends}, ((writable properties).run server).Confined sends fun _ => True :=
    confined_writable properties server
  refine (confined_run_bind hc fun given hg => ?_).sends_of_mem
  obtain rfl := Except.ok.inj hg
  exact (Client.confined_send_body fun _ => trivial).bind (fun page =>
    (confined_log _ _).bind fun _ => confined_pure page) _

theorem confined_givenProperties (properties : Option Properties) :
    (givenProperties properties).Confined sends fails := by
  unfold givenProperties
  split
  · exact confined_pure _
  · exact confined_pure _
  · exact (confined_writable _).bind fun _ => confined_pure _

/-- Properties are given if there are any, even if none of them may be written. -/
theorem outcome_givenProperties (properties : Option Properties) (server : Server) :
    ((givenProperties properties).run server).outcome =
      .ok ((properties.filter (!·.isEmpty)).map Properties.writable) := by
  match properties with
  | none => rfl
  | some [] => rfl
  | some (_ :: _) => rfl

/-- A page is changed by what may be written of its properties, if any are given. -/
theorem body_of_updatePage (project : Project) (id : Identifier) (properties : Option Properties)
    (archived : Bool) (server : Server) :
    ∀ request ∈ ((project.updatePage id properties archived).run server).requests,
      request.body = some (PageUpdate.toJson
        ⟨(properties.filter (!·.isEmpty)).map Properties.writable,
          if archived then some true else none⟩) := by
  have hc : ∀ {sends}, ((givenProperties properties).run server).Confined sends fun _ => True :=
    confined_givenProperties properties server
  refine (confined_run_bind hc fun given hg => ?_).sends_of_mem
  rw [outcome_givenProperties] at hg
  obtain rfl := Except.ok.inj hg
  exact (Client.confined_send_body fun _ => trivial).bind (fun page =>
    (confined_log _ _).bind fun _ => confined_pure page) _

/-- Of properties that were read, the requests to create a record and to change a page hold all
entries without the marker of unique identifiers, in order, and nothing else; a change holds none
only if no properties are given. No entry has the type of unique identifiers, and nothing more is
left out of what may be written. -/
theorem body_of_write (project : Project) {source : Source} {properties : Properties}
    (h : Properties.decode source = .ok properties) (server : Server) :
    (∀ database parent,
      ∀ request ∈ ((project.createRecord database properties parent).run server).requests,
        ∃ body, request.body = some body ∧
          body.member? "properties" = some (.object properties.unassigned)) ∧
    (∀ id archived,
      ∀ request ∈ ((project.updatePage id (some properties) archived).run server).requests,
        ∃ body, request.body = some body ∧
          body.member? "properties" =
            if properties = [] then none else some (.object properties.unassigned)) ∧
    (∀ entry ∈ properties.unassigned, ¬entry.2.HasType "unique_id") ∧
    properties.writable.writable = properties.writable := by
  refine ⟨fun database parent request hm => ?_, fun id archived request hm => ?_,
    Properties.not_hasType_of_mem_unassigned h, properties.writable_writable⟩
  · refine ⟨_, project.body_of_createRecord database properties parent server request hm, ?_⟩
    rfl
  · refine ⟨_, project.body_of_updatePage id (some properties) archived server request hm, ?_⟩
    cases properties with
    | nil => cases archived <;> rfl
    | cons member rest => rfl

/-- Properties with a unique identifier that is typed, one whose payload makes no sense, and one
that is told by the number of its kind, among a title, a value without a type and a formula. -/
def sampleSource : Source :=
  (Source.ofText <|
   "\x7b\"ID\":\x7b\"type\":\"unique_id\",\"unique_id\":\x7b\"number\":3\x7d\x7d," ++
   "\"Name\":\x7b\"type\":\"title\",\"title\":[]\x7d," ++
   "\"Old\":\x7b\"type\":\"unique_id\",\"unique_id\":\"oops\"\x7d,\"Size\":\x7b\"number\":5\x7d," ++
   "\"No\":\x7b\"type\":11,\"unique_id\":\x7b\x7d\x7d,\"Sum\":\x7b\"type\":\"formula\"\x7d\x7d").1

def sampleProperties : Properties :=
  (Properties.decode sampleSource).toOption.getD []

theorem decode_sampleSource : Properties.decode sampleSource = .ok sampleProperties := by
  have hok : (Properties.decode sampleSource).toOption.isSome = true := by decide +kernel
  unfold sampleProperties
  cases hd : Properties.decode sampleSource with
  | error error =>
    rw [hd] at hok
    cases hok
  | ok properties => rfl

/-- Three of the six properties are written. -/
theorem body_of_write_sample :
    let project : Project := ⟨.ofRandom 0, .sample "http://a/v1"⟩
    let run := (project.createRecord (.ofRandom 1) sampleProperties none).run (.scripted [])
    Properties.decode sampleSource = .ok sampleProperties ∧ sampleProperties.length = 6 ∧
      Members.names sampleProperties.unassigned = ["Name", "Size", "Sum"] ∧
      ∃ request body, run.requests = [request] ∧ request.body = some body ∧
        body.member? "properties" = some (.object sampleProperties.unassigned) := by
  intro project run
  have hone : run.requests.length = 1 := by decide +kernel
  obtain ⟨request, hrequest⟩ := List.length_eq_one_iff.1 hone
  obtain ⟨hcreate, -⟩ := body_of_write project decode_sampleSource (.scripted [])
  obtain ⟨body, hbody⟩ := hcreate (.ofRandom 1) none request
    (by rw [show Run.requests _ = _ from hrequest]; exact List.mem_singleton_self request)
  exact ⟨decode_sampleSource, by decide +kernel, by decide +kernel, request, body, hrequest, hbody⟩

end Project

end NotionProject
