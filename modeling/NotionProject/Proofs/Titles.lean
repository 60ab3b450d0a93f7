import NotionProject.Proofs.Creating
import NotionProject.Proofs.RoundTrip
import NotionProject.Proofs.TextForm

/-!
# Titles that are written and read

The title that a page or a database is created with is the title that is read from the text of the
request (`Project.titles_are_read_back`), whatever text it is. A part of an object is read from its
text in two ways: by a record that has this one field, and from the whole text as a value
(`Decoder.Finds`). The first one passes over the other members, so it minds none of them; the second
one needs all of them to be readable, and of a database that is created these are, but for its
schema.
-/

namespace NotionProject

variable {α β : Type}

/-! ## One member of an object -/

/-- Reads one member of an object, and passes over the others. -/
def Decoder.member (name : String) (decode : Decoder α) : Decoder α :=
  (Fields.required name decode).decode name

/-- Under the name a value with the property is read: by itself, and also from the text as a whole,
if that can be read. -/
structure Decoder.Finds (decode : Decoder α) (name text : String) (p : α → Prop) : Prop where
  by_field : ∃ value, ofText (member name decode) text = .ok value ∧ p value
  by_value : ∀ json, Json.ofText text = .ok json → ∃ part value, json.member? name = some part ∧
    ofJson decode part = .ok value ∧ p value

section Member

variable {members : Members Json}

/-- Of an object of different names, a member is read from the text as the value that it was, if it
is read so in canonical form as well. -/
theorem Decoder.finds_member {decode : Decoder α} {name : String} {part : Json} {value : α}
    {p : α → Prop} (hnodup : members.names.Nodup) (hpart : members.find? name = some part)
    (hreread : part.IsReread 1) (hread : ofJson decode part = .ok value)
    (hcanonical : ofJson decode part.canonical = .ok value) (hp : p value) :
    decode.Finds name (Json.object members).compact p where
  by_field := by
    refine ⟨value, ?_, hp⟩
    have hskip : ∀ member ∈ members.mapValues (Source.written 1), member.2.skip = .ok () := by
      intro member hm
      obtain ⟨given, -, rfl⟩ := List.mem_map.1 hm
      exact Source.skip_written 1 given.2
    rw [ofText_compact, Source.written_object]
    refine (Fields.decodeMembers_readable (by rwa [Members.names_mapValues]) hskip).2 ?_
    simp only [Fields.required, Fields.field, Given.find?, Members.find?_mapValues, hpart,
      Option.map_some, Source.written_eq_ofJson hreread]
    exact hread
  by_value := by
    intro json hjson
    obtain ⟨values, hall, rfl⟩ := Json.ofText_object_eq_ok_iff.1 hjson
    have hnames : members.names = values.names := by
      rw [Members.names, Members.names, ← List.forall₂_eq_eq_eq, List.forall₂_map_left_iff,
        List.forall₂_map_right_iff]
      exact hall.imp fun _ _ h => h.1
    obtain ⟨⟨_, _⟩, hentry, rfl, htoJson⟩ :=
      exists_of_forall₂_of_mem hall.flip (Members.mem_of_find?_eq_some hpart)
    rw [Source.written_eq_ofJson hreread, Source.toJson_ofJson] at htoJson
    obtain rfl := Except.ok.inj htoJson
    have hvalues : values.names.Nodup := hnames ▸ hnodup
    refine ⟨part.canonical, value, ?_, hcanonical, hp⟩
    rw [Json.member?, Members.find?_sorted hvalues, (Members.find?_eq_some_iff hvalues).2 hentry]

/-- The text of an object is read as a value just if each of its members is. -/
theorem Json.exists_ofText_object_iff : (∃ json, ofText (object members).compact = .ok json) ↔
    ∀ member ∈ members, ∃ json, (Source.written 1 member.2).toJson = .ok json := by
  have hmember : ∀ member : String × Json, (∃ entry : String × Json, member.1 = entry.1 ∧
      (Source.written 1 member.2).toJson = .ok entry.2) ↔
        ∃ json, (Source.written 1 member.2).toJson = .ok json := fun member =>
    ⟨fun ⟨entry, _, h⟩ => ⟨entry.2, h⟩, fun ⟨json, h⟩ => ⟨(member.1, json), rfl, h⟩⟩
  simp only [ofText_object_eq_ok_iff, ← hmember, ← exists_forall₂_iff]
  exact ⟨fun ⟨_, values, hall, _⟩ => ⟨values, hall⟩, fun ⟨values, hall⟩ => ⟨_, values, hall, rfl⟩⟩

end Member

/-! ## Pages -/

/-- The entry of a map of one is read as it is from its canonical form. -/
theorem Decoder.ofJson_map_canonical_singleton {decode : Decoder α} [decode.IgnoresOrder]
    {json : Json} (hdistinct : json.distinct = true) {value : α}
    (hread : ofJson decode json = .ok value) (name : String) :
    ofJson (map decode) (Json.object [(name, json)]).canonical = .ok [(name, value)] := by
  rw [Json.canonical_object]
  refine ofJson_map_object.2 ⟨[(name, value)], .cons ⟨rfl, ?_⟩ .nil, rfl⟩
  exact (IgnoresOrder.decode_canonical hdistinct).2 hread

theorem RichText.plainOf_ofText (content : String) : plainOf [ofText content] = content := by
  simp [plainOf, ofText, plain, String.join]

theorem Parent.isReread_toJson_page (id : Identifier) : (toJson (.page id)).IsReread 1 :=
  ⟨by decide, trivial, trivial, trivial⟩

theorem RichText.isReread_ofText {depth : Nat} (h : depth + 2 < Source.depthLimit)
    (content : String) : (listToJson [ofText content]).IsReread depth := by
  have hlimit : depth < Source.depthLimit ∧ depth + 1 < Source.depthLimit := by omega
  simp [listToJson, toJson, ofText, TextContent.toJson, Json.ofFields, Json.IsReread,
    Json.ItemsReread, Json.MembersReread, hlimit, h]

/-- All of the body of a page that is created with a title alone is read as it is. -/
theorem NewPage.isReread_toJson (parent : Identifier) (title : String) :
    (toJson ⟨.page parent, [("title", .title title)]⟩).IsReread 0 :=
  ⟨by decide, Parent.isReread_toJson_page parent, ⟨by decide, ⟨by decide, trivial,
    RichText.isReread_ofText (by decide) title, trivial⟩, trivial⟩, trivial⟩

/-- The properties of a page that is created with a title alone. -/
theorem NewPage.finds_properties (parent : Identifier) (title : String) :
    Properties.decode.Finds "properties" (toJson ⟨.page parent, [("title", .title title)]⟩).compact
      fun properties => ∀ page : Page, page.properties = properties → page.title? = some title := by
  let properties : Properties := [("title", .title title)]
  have hwell : (PropertyValue.title title).WellFormed :=
    (PropertyValue.IsObtained.title title).wellFormed
  have hread : Decoder.ofJson Properties.decode properties.toJson = .ok properties := by
    refine Properties.decode_toJson ⟨by simp [properties, Members.names], ?_⟩
    exact List.forall_mem_singleton.2 hwell
  have hcanonical : Decoder.ofJson Properties.decode properties.toJson.canonical = .ok properties :=
    Decoder.ofJson_map_canonical_singleton rfl (PropertyValue.decode_toJson hwell) "title"
  obtain ⟨-, -, hreread, -⟩ := NewPage.isReread_toJson parent title
  let members : Members Json :=
    [("parent", Parent.toJson (.page parent)), ("properties", properties.toJson)]
  have hnodup : members.names.Nodup := by simp [members, Members.names]
  have hpart : members.find? "properties" = some properties.toJson := rfl
  refine Decoder.finds_member hnodup hpart hreread hread hcanonical ?_
  rintro page hpage
  simp [Page.title?, hpage, properties, Page.titleOf?, PropertyValue.title, RichText.plainOf_ofText]

/-! ## Databases -/

section Database

variable (parent : Identifier) (title : String) (schema : Schema)

/-- The title of a database that is created, whatever its schema. -/
theorem NewDatabase.finds_title : RichText.decodeList.Finds "title"
    (toJson ⟨.page parent, [RichText.ofText title], schema⟩).compact
      fun segments => ∀ database : Database, database.title = segments →
        database.titleText = title := by
  have hread : Decoder.ofJson RichText.decodeList (RichText.listToJson [RichText.ofText title]) =
      .ok [RichText.ofText title] :=
    Decoder.ofJson_map_toJson <| List.forall_mem_singleton.2 <|
      RichText.decode_toJson (RichText.wellFormed_ofText title)
  let members : Members Json :=
    [("parent", Parent.toJson (.page parent)),
      ("title", RichText.listToJson [RichText.ofText title]), ("properties", schema.toJson)]
  have hnodup : members.names.Nodup := by simp [members, Members.names]
  have hpart : members.find? "title" = some (RichText.listToJson [RichText.ofText title]) := rfl
  refine Decoder.finds_member hnodup hpart (RichText.isReread_ofText (by decide) title) hread
    ((Decoder.IgnoresOrder.decode_canonical rfl).2 hread) ?_
  rintro database hdatabase
  rw [Database.titleText, hdatabase, RichText.plainOf_ofText]

/-- The whole body of a database is read as a value just if its schema is. -/
theorem NewDatabase.exists_ofText_iff :
    (∃ json, Json.ofText (toJson ⟨.page parent, [RichText.ofText title], schema⟩).compact =
        .ok json) ↔
      ∃ json, Json.ofText (Json.object [("properties", schema.toJson)]).compact = .ok json := by
  have hpart : ∀ {part : Json}, part.IsReread 1 →
      ∃ json, (Source.written 1 part).toJson = .ok json := fun h =>
    ⟨_, by rw [Source.written_eq_ofJson h, Source.toJson_ofJson]⟩
  have hparent := hpart (Parent.isReread_toJson_page parent)
  have htitle := hpart (RichText.isReread_ofText (by decide) title)
  rw [toJson, Json.exists_ofText_object_iff, Json.exists_ofText_object_iff]
  simp [hparent, htitle]

end Database

/-! ## Schemas -/

/-- A specification is read as it is within the body of a database, unless one is given that is
not. -/
theorem ColumnSpec.isReread_toJson {spec : ColumnSpec}
    (h : ∀ json, spec = given json → json.IsReread 2) : spec.toJson.IsReread 2 := by
  have hempty : ∀ name, (Json.object [(name, .object [])]).IsReread 2 := fun _ =>
    ⟨by decide, ⟨by decide, trivial⟩, trivial⟩
  cases spec with
  | title => exact hempty "title"
  | richText => exact hempty "rich_text"
  | number => exact ⟨by decide, ⟨by decide, trivial, trivial⟩, trivial⟩
  | checkbox => exact hempty "checkbox"
  | url => exact hempty "url"
  | select options =>
    refine ⟨by decide,
      ⟨by decide, ⟨by decide, Json.itemsReread_iff.2 fun option hm => ?_⟩, trivial⟩, trivial⟩
    obtain ⟨name, -, rfl⟩ := List.mem_map.1 hm
    exact ⟨by decide, trivial, trivial⟩
  | uniqueId label => cases label <;> exact ⟨by decide, ⟨by decide, trivial, trivial⟩, trivial⟩
  | given json => exact h json rfl

/-- What a schema that is built step by step has under a name was specified for a column. -/
theorem Schema.exists_column_of_mem_build {columns : List (String × ColumnSpec)}
    {member : String × Json} (hm : member ∈ (build columns).specs) :
    ∃ column ∈ columns, column.2.toJson = member.2 := by
  have key : ∀ (columns : List (String × ColumnSpec)) (schema : Schema),
      member ∈ (columns.foldl (fun schema column => schema.put column.1 column.2) schema).specs →
      member ∈ schema.specs ∨ ∃ column ∈ columns, column.2.toJson = member.2 := by
    intro columns
    induction columns with
    | nil => exact fun schema hm => Or.inl hm
    | cons column rest ih =>
      intro schema hm
      rcases ih _ hm with hput | ⟨other, hother, he⟩
      · rcases Members.mem_of_mem_put hput with rfl | hschema
        · exact Or.inr ⟨column, List.mem_cons_self, rfl⟩
        · exact Or.inl hschema
      · exact Or.inr ⟨other, List.mem_cons_of_mem _ hother, he⟩
  rcases key columns empty hm with hnone | hcolumn
  · cases hnone
  · exact hcolumn

/-- Such a schema has a text that is read as a value, if each given specification is read as it
is. -/
theorem Schema.exists_ofText_build {columns : List (String × ColumnSpec)}
    (h : ∀ column ∈ columns, ∀ json, column.2 = .given json → json.IsReread 2) :
    ∃ json, Json.ofText (Json.object [("properties", (build columns).toJson)]).compact =
      .ok json := by
  have hspecs : ∀ member ∈ (build columns).specs, member.2.IsReread 2 := by
    intro member hm
    obtain ⟨column, hcolumn, he⟩ := exists_column_of_mem_build hm
    exact he ▸ ColumnSpec.isReread_toJson (h column hcolumn)
  refine ⟨_, Json.ofText_compact_of_isReread ⟨by decide, ⟨by decide, ?_⟩, trivial⟩⟩
  exact Json.membersReread_iff.2 hspecs

/-! ## Requests -/

namespace Project

open Call

theorem confined_pageExists {sends : Request → Prop} {fails : Failure → Prop} {project : Project}
    {id : Identifier}
    (h : (project.client.perform (Endpoint.page id)).Confined sends fun _ => True) :
    (project.pageExists id).Confined sends fails := by
  refine h.attempt.bind fun outcome => ?_
  cases outcome with
  | ok page => exact confined_pure _
  | error failure =>
    dsimp only
    split <;> exact (confined_log _ _).bind fun _ => confined_pure _

/-- To create a page nothing is posted but the page. -/
theorem body_of_createPage (project : Project) (parent : Identifier) (title : String)
    (server : Server) : ∀ request ∈ ((project.createPage parent title).run server).requests,
      request.method = .post →
        request.body = some (NewPage.toJson ⟨.page parent, [("title", .title title)]⟩) := by
  let sends (request : Request) : Prop := request.method = .post →
    request.body = some (NewPage.toJson ⟨.page parent, [("title", .title title)]⟩)
  have hcheck : (project.pageExists parent).Confined sends fun _ => True := by
    refine confined_pageExists ((project.client.confined_perform rfl).mono ?_ fun _ _ => trivial)
    rintro request ⟨hr, -⟩ hpost
    rw [Client.method_of_request? hr] at hpost
    cases hpost
  have hcreate : (project.client.perform (creation parent title)).Confined sends fun _ => True :=
    (Client.confined_send_body fun _ => trivial).mono (fun _ h _ => h) fun _ => id
  refine (hcheck.bind (fun found => ?_) server).sends_of_mem
  split
  · exact hcreate.bind fun page => (confined_log _ _).bind fun _ => confined_pure page.id
  · exact confined_fail trivial

/-- To create a database nothing is sent but the database. -/
theorem body_of_createDatabase (project : Project) (parent : Identifier) (title : String)
    (schema : Schema) (server : Server) :
    ∀ request ∈ ((project.createDatabase parent title schema).run server).requests,
      request.body =
        some (NewDatabase.toJson ⟨.page parent, [RichText.ofText title], schema⟩) := by
  have hc : (project.createDatabase parent title schema).Confined (fun request => request.body =
      some (NewDatabase.toJson ⟨.page parent, [RichText.ofText title], schema⟩)) fun _ => True :=
    (Client.confined_send_body fun _ => trivial).bind fun database =>
      (confined_log _ _).bind fun _ => confined_pure database.id
  exact (hc server).sends_of_mem

/-- A title that is written is the title that is read. The text that is posted to create a page is
that of a value, and in its properties the title of the page is found. In the text that is sent to
create a database, whatever the schema, its title is found, and all of the text is that of a value
just if the schema has such a text. -/
theorem titles_are_read_back (project : Project) (parent : Identifier) (title : String)
    (server : Server) :
    (∀ request ∈ ((project.createPage parent title).run server).requests, request.method = .post →
      ∃ text, request.bodyText? = some text ∧ (∃ json, Json.ofText text = .ok json) ∧
        Properties.decode.Finds "properties" text fun properties =>
          ∀ page : Page, page.properties = properties → page.title? = some title) ∧
    ∀ schema, ∀ request ∈ ((project.createDatabase parent title schema).run server).requests,
      ∃ text, request.bodyText? = some text ∧
        ((∃ json, Json.ofText text = .ok json) ↔
          ∃ json, Json.ofText (Json.object [("properties", schema.toJson)]).compact = .ok json) ∧
        RichText.decodeList.Finds "title" text fun segments =>
          ∀ database : Database, database.title = segments → database.titleText = title := by
  refine ⟨fun request hm hpost => ?_, fun schema request hm => ?_⟩
  · refine ⟨_, congrArg (Option.map Json.compact)
      (project.body_of_createPage parent title server request hm hpost),
      ⟨_, Json.ofText_compact_of_isReread (NewPage.isReread_toJson parent title)⟩,
      NewPage.finds_properties parent title⟩
  · exact ⟨_, congrArg (Option.map Json.compact)
      (project.body_of_createDatabase parent title schema server request hm),
      NewDatabase.exists_ofText_iff parent title schema,
      NewDatabase.finds_title parent title schema⟩

/-- A title with a quote, a backslash, a line break, a null character, braces and a letter that is
not ASCII. -/
def sampleTitle : String := "\"\\\n\x00\x7bλ\x7d"

/-- A schema with a quote in the name of an option. -/
def sampleSchema : Schema :=
  .build [("Name", .title), ("Kind", .select ["a\"b"]), ("Count", .number)]

/-- The whole text of each body is that of a value, and in the value the title is found. -/
theorem titles_are_read_back_sample :
    let project : Project := ⟨.ofRandom 0, .sample "http://h/v1"⟩
    (∃ check write text json part properties,
      ((project.createPage (.ofRandom 1) sampleTitle).run
        (.scripted sampleCreation)).requests = [check, write] ∧ write.bodyText? = some text ∧
      Json.ofText text = .ok json ∧ json.member? "properties" = some part ∧
      Decoder.ofJson Properties.decode part = .ok properties ∧
      ∀ page : Page, page.properties = properties → page.title? = some sampleTitle) ∧
    ∃ request text json part segments,
      ((project.createDatabase (.ofRandom 1) sampleTitle sampleSchema).run
        (.scripted [])).requests = [request] ∧ request.bodyText? = some text ∧
      Json.ofText text = .ok json ∧ json.member? "title" = some part ∧
      Decoder.ofJson RichText.decodeList part = .ok segments ∧
      ∀ database : Database, database.title = segments → database.titleText = sampleTitle := by
  dsimp only
  constructor
  · have hmethods : (((createPage ⟨.ofRandom 0, .sample "http://h/v1"⟩ (.ofRandom 1)
        sampleTitle).run (.scripted sampleCreation)).requests.map Request.method) =
          [.get, .post] := by decide +kernel
    obtain ⟨check, rest, hrequests, -, hrest⟩ := List.map_eq_cons_iff.1 hmethods
    obtain ⟨write, none, rfl, hpost, hnone⟩ := List.map_eq_cons_iff.1 hrest
    obtain rfl := List.map_eq_nil_iff.1 hnone
    obtain ⟨text, htext, ⟨json, hjson⟩, hfinds⟩ := (titles_are_read_back
      ⟨.ofRandom 0, .sample "http://h/v1"⟩ (.ofRandom 1) sampleTitle
      (.scripted sampleCreation)).1 write (by rw [hrequests]; simp) hpost
    obtain ⟨part, properties, hpart, hread, htitle⟩ := hfinds.by_value json hjson
    exact ⟨check, write, text, json, part, properties, hrequests, htext, hjson, hpart, hread,
      htitle⟩
  · have hone : ((createDatabase ⟨.ofRandom 0, .sample "http://h/v1"⟩ (.ofRandom 1)
        sampleTitle sampleSchema).run (.scripted [])).requests.length = 1 := by decide +kernel
    obtain ⟨request, hrequest⟩ := List.length_eq_one_iff.1 hone
    obtain ⟨text, htext, hiff, hfinds⟩ := (titles_are_read_back
      ⟨.ofRandom 0, .sample "http://h/v1"⟩ (.ofRandom 1) sampleTitle (.scripted [])).2
      sampleSchema request (by rw [hrequest]; exact List.mem_singleton_self request)
    obtain ⟨json, hjson⟩ := hiff.2 (Schema.exists_ofText_build (by simp))
    obtain ⟨part, segments, hpart, hread, htitle⟩ := hfinds.by_value json hjson
    exact ⟨request, text, json, part, segments, hrequest, htext, hjson, hpart, hread, htitle⟩

end Project

end NotionProject
