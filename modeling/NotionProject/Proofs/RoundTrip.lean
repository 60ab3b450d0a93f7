import NotionProject.Block
import NotionProject.Proofs.CanonicalForm
import NotionProject.Proofs.WellFormed

/-!
# What is written is read back

Every value that is well formed is written so that it is read back. This goes field by field: in the
members that were written is found, under the name of a field, what the field is read back from. Of
parents and blocks there is nothing to ask.

What was read from a value of different names is well formed, and so is what is made of texts,
numbers and identifiers. So decoding undoes encoding for each type of the interface
(`Decoder.undoes_everywhere`). All of this is about JSON values; how they are written as text is not
looked at.
-/

namespace NotionProject

open Members

variable {α : Type}

/-! ## Members that are there -/

namespace Members

/-- The members that have a value. -/
def present (members : Members (Option α)) : Members α :=
  members.filterMap fun member => member.2.map fun value => (member.1, value)

/-- The members that have a value stand in the order that they had. -/
theorem names_present_sublist (members : Members (Option α)) :
    members.present.names.Sublist members.names := by
  induction members with
  | nil => exact .slnil
  | cons member rest ih =>
    obtain ⟨name, value?⟩ := member
    cases value? with
    | none => exact ih.cons name
    | some value => exact ih.cons_cons name

/-- Under a name is found what was there, if it has a value. -/
theorem find?_present {members : Members (Option α)} (h : members.names.Nodup) (name : String) :
    members.present.find? name = (members.find? name).join := by
  induction members with
  | nil => rfl
  | cons member rest ih =>
    obtain ⟨n, value?⟩ := member
    obtain ⟨hn, hrest⟩ := List.nodup_cons.1 h
    cases value? with
    | none =>
      by_cases he : n = name
      · have hnone : find? rest name = none := find?_eq_none_iff.2 (he ▸ hn)
        simpa [present, find?, he, hnone] using ih hrest
      · simpa [present, find?, he] using ih hrest
    | some value =>
      by_cases he : n = name
      · simp [present, find?, he]
      · simpa [present, find?, he] using ih hrest

theorem names_append (first second : Members α) :
    names (first ++ second) = first.names ++ second.names :=
  List.map_append

theorem present_append (first second : Members (Option α)) :
    present (first ++ second) = first.present ++ second.present :=
  List.filterMap_append

/-- If every member has a value, none is left out. -/
theorem present_mapValues_some (members : Members α) :
    (members.mapValues some).present = members := by
  induction members with
  | nil => rfl
  | cons member rest ih => exact congrArg (member :: ·) ih

/-- Values with their names in order are their own canonical forms. -/
theorem IsMapOf.mapValues_canonical {members : Members Json} (h : members.IsMapOf Json.InOrder) :
    members.mapValues Json.canonical = members := by
  have hsame : ∀ member ∈ members, (member.1, member.2.canonical) = member := fun member hm =>
    congrArg (Prod.mk member.1) (h.holds member hm)
  rw [mapValues, List.map_congr_left hsame, List.map_id']

end Members

theorem Json.object_ne_null (members : Members Json) : object members ≠ null :=
  Json.noConfusion

theorem Json.string_ne_null (s : String) : string s ≠ null :=
  Json.noConfusion

theorem Json.number_ne_null (n : Number) : number n ≠ null :=
  Json.noConfusion

/-- The names of an object in order are all different. -/
theorem Json.InOrder.nodup {members : Members Json} (h : (object members).InOrder) :
    members.names.Nodup := by
  rw [InOrder, canonical_object, object.injEq] at h
  rw [← h]
  exact (rising_sorted _).nodup

/-! ## Parts -/

namespace Decoder

variable {decode : Decoder α} {toJson : α → Json}

@[simp] theorem ofJson_string (s : String) : ofJson string (.string s) = .ok s := rfl

@[simp] theorem ofJson_bool (b : Bool) : ofJson bool (.bool b) = .ok b := rfl

@[simp] theorem ofJson_nullable_null : ofJson (nullable decode) .null = .ok none := rfl

/-- A number up to the bound is read back. -/
theorem ofJson_natural {most n : Nat} {expected : String} (h : n ≤ most) :
    ofJson (natural most expected) (.int n) = .ok n := by
  simp [ofJson, Json.int, Source.ofJson, natural, h]

/-- A value that may be missing is read back, if none is written as null. -/
theorem ofJson_orNull {value? : Option α}
    (h : ∀ value ∈ value?, toJson value ≠ .null ∧ ofJson decode (toJson value) = .ok value) :
    ofJson (nullable decode) (.orNull (value?.map toJson)) = .ok value? := by
  cases value? with
  | none => rfl
  | some value =>
    obtain ⟨hnull, hread⟩ := h value rfl
    rw [Option.map_some, Json.orNull, ofJson_nullable_of_ne hnull, hread]
    rfl

@[simp] theorem ofJson_orNull_string (s? : Option String) :
    ofJson (nullable string) (.orNull (s?.map .string)) = .ok s? :=
  ofJson_orNull fun s _ => ⟨Json.string_ne_null s, rfl⟩

/-- A list is read back if its items are. -/
theorem ofJson_map_toJson {values : List α}
    (h : ∀ value ∈ values, ofJson decode (toJson value) = .ok value) :
    ofJson (list decode) (.array (values.map toJson)) = .ok values := by
  rw [ofJson_list_array, List.forall₂_map_left_iff, List.forall₂_same]
  exact h

/-- A map of different names is read back if its values are. -/
theorem ofJson_mapValues_toJson {values : Members α} (hnodup : values.names.Nodup)
    (h : ∀ member ∈ values, ofJson decode (toJson member.2) = .ok member.2) :
    ofJson (map decode) (.object (values.mapValues toJson)) = .ok values := by
  refine ofJson_map_object.2 ⟨values, ?_, collapse_eq_self hnodup⟩
  rw [mapValues, List.forall₂_map_left_iff, List.forall₂_same]
  exact fun member hm => ⟨rfl, h member hm⟩

/-- A map of any values in order is read as it is. -/
theorem ofJson_map_json {members : Members Json} (h : members.IsMapOf Json.InOrder) :
    ofJson (map json) (.object members) = .ok members := by
  have hread : ofJson (map json) (.object (members.mapValues Json.canonical)) = .ok members :=
    ofJson_mapValues_toJson h.nodup fun member hm => by
      rw [ofJson_json, Json.canonical_canonical, h.holds member hm]
  rwa [h.mapValues_canonical] at hread

end Decoder

/-! ## Records -/

namespace Fields

variable {fields : Fields α} [fields.Lawful] {name : String} {value : α}

/-- A record is read back from the members that its fields were written as. -/
theorem decode_ofFields {written : Members (Option Json)} (h : written.names.Nodup) :
    Decoder.ofJson (fields.decode name) (.ofFields written) = .ok value ↔
      fields.build (.ofMembers written.present) 0 = .ok value :=
  decode_object (h.sublist (names_present_sublist written))

end Fields

open Fields

instance : SelectOption.fields.Lawful := by
  unfold SelectOption.fields
  infer_instance

instance : DateValue.fields.Lawful := by
  unfold DateValue.fields
  infer_instance

instance : ChildTitle.fields.Lawful := by
  unfold ChildTitle.fields
  infer_instance

instance : Block.fields.Lawful := by
  unfold Block.fields
  infer_instance

/-- A link is written only if there is one. -/
theorem TextContent.decode_toJson {text : TextContent} (h : text.WellFormed) :
    Decoder.ofJson decode text.toJson = .ok text := by
  have hnodup : (names [("content", some (Json.string text.content)),
      ("link", text.link)]).Nodup := by
    simp [names]
  have hlink : Decoder.ofJson (Decoder.nullable Decoder.json) (.orNull text.link) =
      .ok text.link := by
    have hread : Decoder.ofJson (Decoder.nullable Decoder.json) (.orNull (text.link.map id)) =
        .ok text.link :=
      Decoder.ofJson_orNull fun link hlink =>
        ⟨(h link hlink).1, by rw [id, Decoder.ofJson_json, (h link hlink).2]⟩
    rwa [Option.map_id] at hread
  rw [decode, toJson, decode_ofFields hnodup]
  simp [fields, find?_present hnodup, find?, hlink]

theorem SelectOption.decode_toJson (option : SelectOption) :
    Decoder.ofJson decode option.toJson = .ok option := by
  have hnodup : (names [("id", option.id.map Json.string), ("name", option.name.map Json.string),
      ("color", option.color.map Json.string)]).Nodup := by
    simp [names]
  rw [decode, toJson, decode_ofFields hnodup]
  simp [fields, find?_present hnodup, find?]

theorem DateValue.decode_toJson (date : DateValue) :
    Decoder.ofJson decode date.toJson = .ok date := by
  have hnodup : (names [("start", some (Json.string date.start)),
      ("end", date.finish.map Json.string),
      ("time_zone", date.timeZone.map Json.string)]).Nodup := by
    simp [names]
  rw [decode, toJson, decode_ofFields hnodup]
  simp [fields, find?_present hnodup, find?]

/-- What a segment keeps is read back, because none of its names is that of a field. -/
theorem RichText.decode_toJson {segment : RichText} (h : segment.WellFormed) :
    Decoder.ofJson decode segment.toJson = .ok segment := by
  let known : Members (Option Json) :=
    [("type", segment.kind.map .string), ("text", segment.text.map TextContent.toJson),
      ("plain_text", segment.plainText.map .string)]
  have hknown : ∀ name ∈ names known, (fields.checks.lookup name).isNone = false := by
    simp only [known, names, List.map_cons, List.map_nil, List.forall_mem_cons]
    exact ⟨rfl, rfl, rfl, List.forall_mem_nil _⟩
  have hnodup : (names (known ++ mapValues some segment.rest)).Nodup := by
    rw [names_append, names_mapValues, List.nodup_append]
    refine ⟨by simp [known, names], h.rest.nodup, fun name hname other hother he => ?_⟩
    have hother := h.unknown other hother
    rw [← he, hknown name hname] at hother
    cases hother
  have htext : Decoder.ofJson (Decoder.nullable TextContent.decode)
      (.orNull (segment.text.map TextContent.toJson)) = .ok segment.text :=
    Decoder.ofJson_orNull fun text ht =>
      ⟨Json.object_ne_null _, TextContent.decode_toJson (h.text text ht)⟩
  -- Of all that was written, the members that are no fields are the rest, in its order.
  have hkept : keepNames (fun name => (fields.checks.lookup name).isNone)
      (present (known ++ mapValues some segment.rest)) = segment.rest := by
    rw [present_append, present_mapValues_some, keepNames, List.filter_append,
      List.filter_eq_nil_iff.2, List.filter_eq_self.2, List.nil_append]
    · exact fun member hm => h.unknown member.1 (List.mem_map_of_mem hm)
    · intro member hm
      rw [hknown member.1 ((names_present_sublist known).subset (List.mem_map_of_mem hm))]
      exact Bool.false_ne_true
  have hwritten : segment.toJson = .object (present (known ++ mapValues some segment.rest)) := rfl
  rw [decode, hwritten, decodeOpen_object (hnodup.sublist (names_present_sublist _)), hkept,
    h.rest.mapValues_canonical, sorted_eq_self h.rising]
  refine ⟨RichText.mk segment.kind segment.text segment.plainText, ?_, rfl⟩
  simp only [fields, build_seq_eq_ok_iff, build_map_eq_ok_iff, build_nullable_ofMembers,
    find?_present hnodup]
  simp [known, find?, htext]

/-- The number of an identifier is read back as it fits in 64 bits. -/
theorem UniqueId.decode_toJson {value : UniqueId} (h : value.WellFormed) :
    Decoder.ofJson decode value.toJson = .ok value := by
  have hnumber : ∀ n : Nat, n ≤ largest → Decoder.ofJson
      (Decoder.nullable (Decoder.natural largest "u64")) (.int n) = .ok (some n) := fun n hn => by
    rw [Json.int, Decoder.ofJson_nullable_of_ne (Json.number_ne_null _), ← Json.int,
      Decoder.ofJson_natural hn]
    rfl
  obtain ⟨label, number⟩ := value
  rw [decode, toJson, decode_object (by simp [names])]
  cases number with
  | none => simp [fields, find?]
  | some n => simp [fields, find?, hnumber n (h n rfl)]

namespace TypedProperty

/-- A payload under the name of its kind is typed, if the tag tells the same name. -/
theorem ofJson?_tagged {decode : Decoder α} {make : α → TypedProperty} {name : String}
    {payload : Json} {x : α} (hkind : kindOf? name = some (name, reading decode make))
    (hname : (name != Union.tagName) = true) (h : Decoder.ofJson decode payload = .ok x) :
    ofJson? (.object [("type", .string name), (name, payload)]) = some (make x) := by
  have hne : "type" ≠ name := (bne_iff_ne.1 hname).symm
  simp [ofJson?, taggedKind?, payloadOf, find?, hkind, hne, reading_eq_some_iff, h]

/-- A value that is well formed stands for itself as it is written. -/
theorem ofJson?_toJson {value : TypedProperty} (h : value.WellFormed) :
    ofJson? value.toJson = some value := by
  have hsegments : ∀ segments : List RichText, (∀ segment ∈ segments, segment.WellFormed) →
      Decoder.ofJson RichText.decodeList (RichText.listToJson segments) = .ok segments :=
    fun _ h => Decoder.ofJson_map_toJson fun segment hm => RichText.decode_toJson (h segment hm)
  have hoption : ∀ option : Option SelectOption,
      Decoder.ofJson (Decoder.nullable SelectOption.decode)
        (.orNull (option.map SelectOption.toJson)) = .ok option := fun _ =>
    Decoder.ofJson_orNull fun option _ => ⟨Json.object_ne_null _, option.decode_toJson⟩
  have hreal : ∀ x : Option Binary64, Decoder.ofJson (Decoder.nullable Decoder.real)
      (.orNull (x.map fun x => .number (.real x))) = .ok x := fun _ =>
    Decoder.ofJson_orNull fun x _ => ⟨Json.number_ne_null (.real x), rfl⟩
  cases value with
  | title segments => exact ofJson?_tagged rfl rfl (hsegments segments h)
  | richText segments => exact ofJson?_tagged rfl rfl (hsegments segments h)
  | number value => exact ofJson?_tagged rfl rfl (hreal value)
  | select option => exact ofJson?_tagged rfl rfl (hoption option)
  | multiSelect options =>
    exact ofJson?_tagged rfl rfl (Decoder.ofJson_map_toJson fun option _ => option.decode_toJson)
  | status option => exact ofJson?_tagged rfl rfl (hoption option)
  | checkbox checked => exact ofJson?_tagged rfl rfl (Decoder.ofJson_bool checked)
  | url address => exact ofJson?_tagged rfl rfl (Decoder.ofJson_orNull_string address)
  | email address => exact ofJson?_tagged rfl rfl (Decoder.ofJson_orNull_string address)
  | phoneNumber digits => exact ofJson?_tagged rfl rfl (Decoder.ofJson_orNull_string digits)
  | date value =>
    exact ofJson?_tagged rfl rfl
      (Decoder.ofJson_orNull fun date _ => ⟨Json.object_ne_null _, date.decode_toJson⟩)
  | uniqueId value => exact ofJson?_tagged rfl rfl (UniqueId.decode_toJson h)

end TypedProperty

/-! ## Values of properties -/

/-- A value that is typed stays so, and one that was kept does not become typed. -/
theorem PropertyValue.decode_toJson {value : PropertyValue} (h : value.WellFormed) :
    Decoder.ofJson decode value.toJson = .ok value := by
  cases value with
  | typed known =>
    have hnodup : ∀ members, known.toJson = .object members → (names members).Nodup := by
      intro members he
      cases he
      cases known <;> simp [names, TypedProperty.marker]
    rw [toJson, decode_ofJson hnodup, TypedProperty.ofJson?_toJson h]
    rfl
  | untyped json =>
    -- It is written as it was kept, so it stands for a typed value no more than before.
    have hnodup : ∀ members, json = .object members → (names members).Nodup := by
      rintro members rfl
      exact h.1.nodup
    rw [toJson, decode_ofJson hnodup, h.2, h.1]
    rfl

/-- Properties of different names are read back value by value. -/
theorem Properties.decode_toJson {properties : Properties}
    (h : Members.IsMapOf PropertyValue.WellFormed properties) :
    Decoder.ofJson decode properties.toJson = .ok properties :=
  Decoder.ofJson_mapValues_toJson h.nodup fun member hm =>
    PropertyValue.decode_toJson (h.holds member hm)

/-! ## Parents -/

/-- A value of a kind with one field, of the name of its tag. -/
theorem Union.decode_tagged {union : Union α} {β : Type} {decode : Decoder β} {make : β → α}
    {name label : String} {payload : Json} {x : β}
    (hlawful : ∀ variant ∈ union.variants, variant.fields.Lawful) (hname : (name != tagName) = true)
    (htag : (union.variants.find? fun variant => variant.tag == name) =
      some ⟨name, label, make <$> required name decode⟩)
    (h : Decoder.ofJson decode payload = .ok x) :
    Decoder.ofJson union.decode (.object [(tagName, .string name), (name, payload)]) =
      .ok (make x) := by
  have hne : tagName ≠ name := (bne_iff_ne.1 hname).symm
  rw [decode_object hlawful (by simp [names, hne])]
  refine ⟨_, (by simpa [find?, taggedVariant?] using htag), build_map_eq_ok_iff.2 ⟨x, ?_, rfl⟩⟩
  simp [find?_keepNames, hname, find?, hne, h]

theorem Parent.lawful_variants : ∀ variant ∈ union.variants, variant.fields.Lawful := by
  simp only [union, List.forall_mem_cons]
  exact ⟨inferInstance, inferInstance, inferInstance, inferInstance, List.forall_mem_nil _⟩

/-- A parent is told by the tag and one member, whatever the parent is. -/
theorem Parent.decode_toJson (parent : Parent) :
    Decoder.ofJson decode parent.toJson = .ok parent := by
  cases parent with
  | page id => exact Union.decode_tagged lawful_variants rfl rfl id.decode_toJson
  | database id => exact Union.decode_tagged lawful_variants rfl rfl id.decode_toJson
  | block id => exact Union.decode_tagged lawful_variants rfl rfl id.decode_toJson
  | workspace isIn => exact Union.decode_tagged lawful_variants rfl rfl (Decoder.ofJson_bool isIn)

/-! ## Resources -/

theorem ChildTitle.decode_toJson (title : ChildTitle) :
    Decoder.ofJson decode title.toJson = .ok title := by
  rw [decode, toJson, decode_object (by simp [names])]
  simp [fields, find?]

/-- A title is written only if there is one. -/
theorem Block.decode_toJson (block : Block) : Decoder.ofJson decode block.toJson = .ok block := by
  have hnodup : (names [("id", some block.id.toJson), ("type", some (Json.string block.type)),
      ("child_page", block.childPage.map ChildTitle.toJson),
      ("child_database", block.childDatabase.map ChildTitle.toJson)]).Nodup := by
    simp [names]
  have htitle : ∀ title? : Option ChildTitle, Decoder.ofJson (Decoder.nullable ChildTitle.decode)
      (.orNull (title?.map ChildTitle.toJson)) = .ok title? := fun _ =>
    Decoder.ofJson_orNull fun title _ => ⟨Json.object_ne_null _, title.decode_toJson⟩
  rw [decode, toJson, decode_ofFields hnodup]
  simp [fields, find?_present hnodup, find?, htitle, block.id.decode_toJson]

/-- A parent, or null. -/
theorem Parent.decode_orNull (parent? : Option Parent) :
    Decoder.ofJson (Decoder.nullable decode) (.orNull (parent?.map toJson)) = .ok parent? :=
  Decoder.ofJson_orNull fun parent _ =>
    ⟨by cases parent <;> exact Json.object_ne_null _, parent.decode_toJson⟩

theorem Database.decode_toJson {database : Database} (h : database.WellFormed) :
    Decoder.ofJson decode database.toJson = .ok database := by
  have htitle : Decoder.ofJson RichText.decodeList (RichText.listToJson database.title) =
      .ok database.title :=
    Decoder.ofJson_map_toJson fun segment hm => RichText.decode_toJson (h.title segment hm)
  rw [decode, toJson, decode_object (by simp [names])]
  simp [fields, find?, htitle, database.id.decode_toJson, Parent.decode_orNull,
    Decoder.ofJson_map_json h.properties]

theorem Schema.decode_toJson {schema : Schema} (h : Members.IsMapOf Json.InOrder schema.specs) :
    Decoder.ofJson decode schema.toJson = .ok schema := by
  have hread := Decoder.ofJson_map_json h
  rw [Decoder.ofJson] at hread
  rw [Decoder.ofJson, decode, toJson, hread]
  rfl

/-- The times of the page are not known. -/
def Page.IsUndated (page : Page) : Prop :=
  page.createdTime = none ∧ page.lastEditedTime = none

/-- A well-formed page is read back, if its times are not known. -/
theorem Page.decode_toJson {page : Page} (h : page.WellFormed) (hundated : page.IsUndated) :
    Decoder.ofJson decode page.toJson = .ok page := by
  obtain ⟨id, parent, properties, archived, url, created, edited⟩ := page
  obtain ⟨rfl, rfl⟩ : created = none ∧ edited = none := hundated
  have hproperties := Properties.decode_toJson h
  rw [decode, toJson, decode_object (by simp [names])]
  simp [fields, find?, id.decode_toJson, Parent.decode_orNull, hproperties]

/-- A part of a list is read back if its items are. -/
theorem Listing.decode_toJson {decode : Decoder α} {toJson : α → Json} {listing : Listing α}
    (h : ∀ item ∈ listing.results, Decoder.ofJson decode (toJson item) = .ok item) :
    Decoder.ofJson (Listing.decode decode) (listing.toJson toJson) = .ok listing := by
  rw [Listing.decode, Listing.toJson, decode_object (by simp [names])]
  simp [fields, find?, Decoder.ofJson_map_toJson h]

/-! ## Made values -/

theorem RichText.wellFormed_ofText (content : String) : (ofText content).WellFormed where
  text := by simp [ofText, TextContent.WellFormed]
  rest := isMapOf_nil _
  rising := .nil
  unknown := List.forall_mem_nil _

/-- An object with one member has its names in order. -/
theorem Json.inOrder_singleton {value : Json} (h : value.InOrder) (name : String) :
    (object [(name, value)]).InOrder := by
  rw [InOrder, canonical_object, mapValues_cons, h, mapValues_nil]
  rfl

/-- A specification is sent in order, unless one is given that is not. -/
theorem ColumnSpec.inOrder_toJson {spec : ColumnSpec}
    (h : ∀ json, spec = given json → json.InOrder) : spec.toJson.InOrder := by
  have hempty : (Json.object []).InOrder := rfl
  have hstring : ∀ s, (Json.string s).InOrder := fun _ => rfl
  cases spec with
  | title => exact Json.inOrder_singleton hempty _
  | richText => exact Json.inOrder_singleton hempty _
  | number => exact Json.inOrder_singleton (Json.inOrder_singleton (hstring _) _) _
  | checkbox => exact Json.inOrder_singleton hempty _
  | url => exact Json.inOrder_singleton hempty _
  | select options =>
    have hoptions : ∀ option ∈ options.map fun name => Json.object [("name", .string name)],
        option.canonical = option := by
      intro option hm
      obtain ⟨name, -, rfl⟩ := List.mem_map.1 hm
      exact Json.inOrder_singleton (hstring name) _
    refine Json.inOrder_singleton (Json.inOrder_singleton ?_ _) _
    rw [Json.InOrder, Json.canonical, Json.canonicalItems_eq, List.map_congr_left hoptions,
      List.map_id']
  | uniqueId label =>
    have hlabel : (Json.orNull (label.map .string)).InOrder := by cases label <;> rfl
    exact Json.inOrder_singleton (Json.inOrder_singleton hlabel _) _
  | given json => exact h json rfl

/-- Putting a member leaves a map of different names one. -/
theorem Members.IsMapOf.put {p : α → Prop} {members : Members α} (h : members.IsMapOf p)
    (name : String) {value : α} (hvalue : p value) : (members.put name value).IsMapOf p where
  nodup := nodup_names_put h.nodup name value
  holds member hm := by
    rcases mem_of_mem_put hm with rfl | hm
    · exact hvalue
    · exact h.holds member hm

/-- A schema that is built step by step is a map of specifications in order. -/
theorem Schema.isMapOf_build {columns : List (String × ColumnSpec)}
    (h : ∀ column ∈ columns, ∀ json, column.2 = .given json → json.InOrder) :
    Members.IsMapOf Json.InOrder (build columns).specs := by
  have key : ∀ (columns : List (String × ColumnSpec)) (schema : Schema),
      (∀ column ∈ columns, ∀ json, column.2 = .given json → json.InOrder) →
      Members.IsMapOf Json.InOrder schema.specs → Members.IsMapOf Json.InOrder
        (columns.foldl (fun schema column => schema.put column.1 column.2) schema).specs := by
    intro columns
    induction columns with
    | nil => exact fun schema _ hschema => hschema
    | cons column rest ih =>
      intro schema h hschema
      obtain ⟨hcolumn, hrest⟩ := List.forall_mem_cons.1 h
      exact ih _ hrest (hschema.put column.1 (ColumnSpec.inOrder_toJson hcolumn))
  exact key columns empty h (isMapOf_nil _)

/-! ## Decoding undoes encoding -/

/-- The value was read from a value of different names. -/
def Decoder.HasRead (decode : Decoder α) (value : α) : Prop :=
  ∃ json : Json, json.distinct = true ∧ ofJson decode json = .ok value

/-- What holds of all that a decoder yields holds of a value that it has read. -/
theorem Decoder.Yields.of_hasRead {decode : Decoder α} {p : α → Prop} (h : decode.Yields p)
    {value : α} (hread : decode.HasRead value) : p value := by
  obtain ⟨json, hjson, hdecode⟩ := hread
  exact h hjson hdecode

/-- What is written of each value with the property is read as that value. -/
def Decoder.Undoes (decode : Decoder α) (toJson : α → Json) (p : α → Prop) : Prop :=
  ∀ value, p value → ofJson decode (toJson value) = .ok value

/-- A segment that was read, or is made of a text. -/
inductive RichText.IsObtained : RichText → Prop where
  | read {segment : RichText} (h : decode.HasRead segment) : IsObtained segment
  | ofText (content : String) : IsObtained (ofText content)

/-- A value that was read, or is made of a text, a number or a mark. -/
inductive PropertyValue.IsObtained : PropertyValue → Prop where
  | read {value : PropertyValue} (h : decode.HasRead value) : IsObtained value
  | title (text : String) : IsObtained (title text)
  | richText (text : String) : IsObtained (richText text)
  | number (x : Binary64) : IsObtained (number x)
  | select (name : String) : IsObtained (select name)
  | checkbox (checked : Bool) : IsObtained (checkbox checked)

/-- Properties that were read, or are a map of such values. -/
inductive Properties.IsObtained : Properties → Prop where
  | read {properties : Properties} (h : decode.HasRead properties) : IsObtained properties
  | ofValues {properties : Properties}
      (h : Members.IsMapOf PropertyValue.IsObtained properties) : IsObtained properties

/-- A schema that was read, or is built of specifications. Those that are given as values are in
order. -/
inductive Schema.IsObtained : Schema → Prop where
  | read {schema : Schema} (h : decode.HasRead schema) : IsObtained schema
  | build {columns : List (String × ColumnSpec)}
      (h : ∀ column ∈ columns, ∀ json, column.2 = .given json → json.InOrder) :
      IsObtained (build columns)

/-- A part of a list that was read, or is made of items that are obtained. -/
inductive Listing.IsObtained (decode : Decoder α) (obtained : α → Prop) : Listing α → Prop where
  | read {listing : Listing α} (h : (Listing.decode decode).HasRead listing) :
      IsObtained decode obtained listing
  | last {results : List α} (h : ∀ item ∈ results, obtained item) :
      IsObtained decode obtained (last results)
  | withMore {results : List α} {cursor : String} (h : ∀ item ∈ results, obtained item) :
      IsObtained decode obtained (withMore results cursor)

/-- A segment that was read or made is well formed. -/
theorem RichText.IsObtained.wellFormed {segment : RichText} (h : segment.IsObtained) :
    segment.WellFormed := by
  cases h with
  | read h => exact yields_decode.of_hasRead h
  | ofText content => exact wellFormed_ofText content

/-- So is the value of a property. -/
theorem PropertyValue.IsObtained.wellFormed {value : PropertyValue} (h : value.IsObtained) :
    value.WellFormed := by
  cases h with
  | read h => exact yields_decode.of_hasRead h
  | title text => exact List.forall_mem_singleton.2 (RichText.wellFormed_ofText text)
  | richText text => exact List.forall_mem_singleton.2 (RichText.wellFormed_ofText text)
  | number x => trivial
  | select name => trivial
  | checkbox checked => trivial

/-- Properties that were read or made have different names and well-formed values. -/
theorem Properties.IsObtained.isMapOf {properties : Properties} (h : properties.IsObtained) :
    Members.IsMapOf PropertyValue.WellFormed properties := by
  cases h with
  | read h => exact yields_decode.of_hasRead h
  | ofValues h => exact ⟨h.nodup, fun member hm => (h.holds member hm).wellFormed⟩

/-- A schema that was read or made has different names, and its values have theirs in order. -/
theorem Schema.IsObtained.isMapOf {schema : Schema} (h : schema.IsObtained) :
    Members.IsMapOf Json.InOrder schema.specs := by
  cases h with
  | read h => exact yields_decode.of_hasRead h
  | build h => exact isMapOf_build h

/-- Every item of a part of a list that was read was read. -/
theorem Listing.IsObtained.hasRead {decode : Decoder α} {listing : Listing α}
    (h : listing.IsObtained decode decode.HasRead) :
    ∀ item ∈ listing.results, decode.HasRead item := by
  cases h with
  | read h =>
    have hyields : decode.Yields decode.HasRead := fun json hjson _ hread => ⟨json, hjson, hread⟩
    exact (yields_decode hyields).of_hasRead h
  | last h => exact h
  | withMore h => exact h

/-- For each type of the interface decoding undoes encoding: what is written of a value that was
read from a value of different names, or that was made, is read as that value. Of a page this is
said if its times are not known, of parents and of blocks without any condition. -/
theorem Decoder.undoes_everywhere :
    RichText.decode.Undoes RichText.toJson RichText.IsObtained ∧
    PropertyValue.decode.Undoes PropertyValue.toJson PropertyValue.IsObtained ∧
    Properties.decode.Undoes Properties.toJson Properties.IsObtained ∧
    Parent.decode.Undoes Parent.toJson (fun _ => True) ∧
    Block.decode.Undoes Block.toJson (fun _ => True) ∧
    Database.decode.Undoes Database.toJson Database.decode.HasRead ∧
    Schema.decode.Undoes Schema.toJson Schema.IsObtained ∧
    Page.decode.Undoes Page.toJson (fun page => Page.decode.HasRead page ∧ page.IsUndated) ∧
    (Listing.decode Block.decode).Undoes (Listing.toJson Block.toJson) (fun _ => True) ∧
    (Listing.decode Page.decode).Undoes (Listing.toJson Page.toJson) fun listing =>
      listing.IsObtained Page.decode Page.decode.HasRead ∧
        ∀ page ∈ listing.results, page.IsUndated := by
  have hpage : ∀ page : Page, Page.decode.HasRead page → page.IsUndated →
      ofJson Page.decode page.toJson = .ok page := fun page hread =>
    Page.decode_toJson (Page.yields_decode.of_hasRead hread)
  refine ⟨fun segment h => RichText.decode_toJson h.wellFormed,
    fun value h => PropertyValue.decode_toJson h.wellFormed,
    fun properties h => Properties.decode_toJson h.isMapOf,
    fun parent _ => parent.decode_toJson,
    fun block _ => block.decode_toJson,
    fun database h => Database.decode_toJson (Database.yields_decode.of_hasRead h),
    fun schema h => Schema.decode_toJson h.isMapOf,
    fun page h => hpage page h.1 h.2,
    fun listing _ => Listing.decode_toJson fun block _ => block.decode_toJson,
    fun listing h => Listing.decode_toJson fun page hm => ?_⟩
  exact hpage page (h.1.hasRead page hm) (h.2 page hm)

/-- The source of a page whose one property is the array of a marker and its payload. -/
def Page.sampleJson : Json :=
  .object
    [("properties", .object [("Done", .array [.string "checkbox", .bool true])]),
      ("id", Identifier.toJson (.ofRandom 1))]

/-- The page that is read from it. -/
def Page.sample : Page :=
  ⟨.ofRandom 1, none, [("Done", .checkbox true)], false, none, none, none⟩

theorem Page.hasRead_sample : decode.HasRead sample := by
  have hproperties : Decoder.ofJson Properties.decode
      (.object [("Done", .array [.string "checkbox", .bool true])]) = .ok sample.properties := by
    rfl
  refine ⟨sampleJson, by decide, ?_⟩
  rw [decode, sampleJson, decode_object (by simp [names])]
  simp [fields, find?, Identifier.decode_toJson, hproperties, sample]

/-- It is written in another way, and then read as it was, also in a part of a list. -/
theorem Decoder.undoes_everywhere_sample :
    let listing := Listing.withMore [Page.sample] "next"
    Page.decode.HasRead Page.sample ∧ Page.sample.IsUndated ∧
      ofJson Page.decode Page.sample.toJson = .ok Page.sample ∧
      ofJson (Listing.decode Page.decode) (listing.toJson Page.toJson) = .ok listing := by
  have hundated : Page.sample.IsUndated := ⟨rfl, rfl⟩
  obtain ⟨-, -, -, -, -, -, -, hpage, -, hlisting⟩ := Decoder.undoes_everywhere
  refine ⟨Page.hasRead_sample, hundated, hpage _ ⟨Page.hasRead_sample, hundated⟩,
    hlisting _ ⟨?_, ?_⟩⟩
  · exact .withMore (List.forall_mem_singleton.2 Page.hasRead_sample)
  · exact List.forall_mem_singleton.2 hundated

end NotionProject
