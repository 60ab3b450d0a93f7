import NotionProject.Database
import NotionProject.Listing
import NotionProject.Page
import NotionProject.Schema
import NotionProject.Proofs.MemberOrder

/-!
# What reading yields

Not every value of a type can be read: a link is not null, what a segment keeps besides its fields
has rising names, and a property value that is kept does not stand for a typed one. Values with
these properties are well formed, and whatever is read from a value of different names is well
formed. That is shown from parts to lists, maps and records, as reading goes (`Decoder.Yields`); of
the fields of a record only those matter about whose values there is something to say.
-/

namespace NotionProject

variable {α β : Type}

/-! ## Well-formed values -/

/-- The names in every object of the value rise. -/
def Json.InOrder (json : Json) : Prop :=
  json.canonical = json

/-- No name is there twice, and every value has the property. -/
structure Members.IsMapOf (p : α → Prop) (members : Members α) : Prop where
  nodup : members.names.Nodup
  holds : ∀ member ∈ members, p member.2

theorem Members.isMapOf_nil (p : α → Prop) : Members.IsMapOf p [] :=
  ⟨.nil, List.forall_mem_nil _⟩

/-- A link is not null. -/
def TextContent.WellFormed (text : TextContent) : Prop :=
  ∀ link ∈ text.link, link ≠ .null ∧ link.InOrder

/-- What a segment keeps has rising names, none of which is that of a field. -/
structure RichText.WellFormed (segment : RichText) : Prop where
  text : ∀ text ∈ segment.text, text.WellFormed
  rest : Members.IsMapOf Json.InOrder segment.rest
  rising : Members.Rising segment.rest
  unknown : ∀ name ∈ Members.names segment.rest, (fields.checks.lookup name).isNone = true

/-- The number is not too large. -/
def UniqueId.WellFormed (value : UniqueId) : Prop :=
  ∀ n ∈ value.number, n ≤ largest

/-- The payload is well formed. -/
def TypedProperty.WellFormed : TypedProperty → Prop
  | title segments => ∀ segment ∈ segments, segment.WellFormed
  | richText segments => ∀ segment ∈ segments, segment.WellFormed
  | uniqueId value => value.WellFormed
  | _ => True

/-- What is kept does not stand for a typed value. -/
def PropertyValue.WellFormed : PropertyValue → Prop
  | typed value => value.WellFormed
  | untyped json => json.InOrder ∧ TypedProperty.ofJson? json = none

/-- The title and the specifications are well formed. -/
structure Database.WellFormed (database : Database) : Prop where
  title : ∀ segment ∈ database.title, segment.WellFormed
  properties : Members.IsMapOf Json.InOrder database.properties

/-- The properties are a map of well-formed values. -/
def Page.WellFormed (page : Page) : Prop :=
  Members.IsMapOf PropertyValue.WellFormed page.properties

/-! ## Decoders -/

/-- In related lists every element of the second is related to one of the first. -/
theorem exists_of_forall₂_of_mem {r : α → β → Prop} {xs : List α} {ys : List β}
    (h : List.Forall₂ r xs ys) {y : β} (hy : y ∈ ys) : ∃ x ∈ xs, r x y := by
  induction h with
  | nil => cases hy
  | @cons x z xs ys hxz _ ih =>
    rcases List.mem_cons.1 hy with rfl | hy
    · exact ⟨x, List.mem_cons_self, hxz⟩
    · obtain ⟨x', hx', hr⟩ := ih hy
      exact ⟨x', List.mem_cons_of_mem _ hx', hr⟩

/-- Whatever is read from a value of different names has the property. -/
def Decoder.Yields (decode : Decoder α) (p : α → Prop) : Prop :=
  ∀ ⦃json : Json⦄, json.distinct = true → ∀ ⦃value : α⦄, ofJson decode json = .ok value → p value

namespace Decoder

variable {decode : Decoder α} {p : α → Prop}

/-- About the values of any decoder nothing need be said. -/
theorem Yields.any : decode.Yields fun _ => True :=
  fun _ _ _ _ => trivial

/-- A value that is read as it is becomes canonical. -/
theorem ofJson_json (value : Json) : ofJson json value = .ok value.canonical := by
  rw [ofJson, Decoder.json, Source.toJson_ofJson]
  rfl

/-- So it has its names in order. -/
theorem yields_json : json.Yields Json.InOrder := by
  intro json _ value hdecode
  rw [ofJson_json] at hdecode
  cases hdecode
  exact json.canonical_canonical

/-- A number that is read is no larger than the bound. -/
theorem yields_natural {most : Nat} {expected : String} :
    (natural most expected).Yields fun n => n ≤ most := by
  intro json _ n hdecode
  cases json with
  | number number =>
    cases number with
    | integer i =>
      rw [ofJson, Source.ofJson, natural] at hdecode
      split at hdecode
      · next hmost =>
        cases hdecode
        omega
      · cases hdecode
    | real x => cases hdecode
  | null | bool b | string s | array items | object members => cases hdecode

/-- What may be null is read as nothing if it is, and else as it is. -/
theorem ofJson_nullable_eq_ok_iff {json : Json} {value? : Option α} :
    ofJson (nullable decode) json = .ok value? ↔ json = .null ∧ value? = none ∨
      json ≠ .null ∧ ∃ value, ofJson decode json = .ok value ∧ some value = value? := by
  by_cases hnull : json = .null
  · subst hnull
    simp [ofJson, Source.ofJson, nullable, eq_comm]
  · simp [ofJson_nullable_of_ne hnull, map_eq_ok_iff, hnull]

/-- A null is no value, and anything else is read as one. -/
theorem yields_nullable (h : decode.Yields p) :
    (nullable decode).Yields fun value? => ∀ value ∈ value?, p value := by
  intro json hjson value? hdecode
  rcases ofJson_nullable_eq_ok_iff.1 hdecode with ⟨-, rfl⟩ | ⟨-, value, hvalue, rfl⟩
  · exact nofun
  · exact fun _ he => Option.some.inj he ▸ h hjson hvalue

/-- What is read as any value is null only if it was. -/
theorem yields_nullable_json :
    (nullable json).Yields fun value? => ∀ value ∈ value?, value ≠ .null ∧ value.InOrder := by
  intro json hjson value? hdecode
  rcases ofJson_nullable_eq_ok_iff.1 hdecode with ⟨-, rfl⟩ | ⟨hnull, value, hvalue, rfl⟩
  · exact nofun
  · rintro _ he
    cases he
    refine ⟨?_, yields_json hjson hvalue⟩
    rw [ofJson_json] at hvalue
    rintro rfl
    cases json <;> simp_all [Json.canonical]

/-- What holds of every item that is read holds of every value of the list. -/
theorem yields_list (h : decode.Yields p) :
    (list decode).Yields fun values => ∀ value ∈ values, p value := by
  intro json hjson values hdecode
  cases json with
  | array items =>
    rw [Json.distinct_array] at hjson
    intro value hvalue
    obtain ⟨json, hmem, hread⟩ := exists_of_forall₂_of_mem (ofJson_list_array.1 hdecode) hvalue
    exact h (hjson json hmem) hread
  | null | bool b | number n | string s | object members => cases hdecode

/-- A map has each name once, with a value that was read. -/
theorem yields_map (h : decode.Yields p) : (map decode).Yields (Members.IsMapOf p) := by
  intro json hjson values hdecode
  cases json with
  | object members =>
    obtain ⟨-, hvalues⟩ := Json.distinct_object.1 hjson
    obtain ⟨entries, hentries, rfl⟩ := ofJson_map_object.1 hdecode
    refine ⟨Members.nodup_names_collapse entries, fun entry hmem => ?_⟩
    obtain ⟨member, hmember, -, hread⟩ :=
      exists_of_forall₂_of_mem hentries (Members.mem_of_mem_collapse hmem)
    exact h (hvalues member hmember) hread
  | null | bool b | number n | string s | array items => cases hdecode

end Decoder

/-! ## Fields -/

/-- What is given for the fields of a record comes from a value of different names. -/
inductive Given.IsDistinct : Given → Prop where
  | ofMembers {members : Members Json} (h : (Json.object members).distinct = true) :
      IsDistinct (.ofMembers members)
  | ofItems {items : List Json} {expected : String} (h : (Json.array items).distinct = true) :
      IsDistinct (.ofItems items expected)

/-- Whatever is put together from such fields has the property. -/
def Fields.Yields (fields : Fields α) (p : α → Prop) : Prop :=
  ∀ ⦃given : Given⦄, given.IsDistinct → ∀ ⦃place : Nat⦄ ⦃value : α⦄,
    fields.build given place = .ok value → p value

namespace Fields

variable {name : String} {decode : Decoder α} {p : α → Prop}

/-- The value of a field was read, or it stands for one that is missing. -/
theorem yields_field {missing : Except DecodeError α} {missingItem : Option α}
    (h : decode.Yields p) (hmissing : ∀ value, missing = .ok value → p value)
    (hitem : ∀ value ∈ missingItem, p value) :
    (field name decode missing missingItem).Yields p := by
  intro given hgiven place value hbuild
  cases hgiven with
  | @ofMembers members hdistinct =>
    rw [build_field_ofMembers] at hbuild
    split at hbuild
    · next json hfind =>
      exact h ((Json.distinct_object.1 hdistinct).2 _ (Members.mem_of_find?_eq_some hfind)) hbuild
    · exact hmissing value hbuild
  | @ofItems items expected hdistinct =>
    rw [build_field_ofItems] at hbuild
    split at hbuild
    · next json hjson =>
      exact h (Json.distinct_array.1 hdistinct json (List.mem_of_getElem? hjson)) hbuild
    · split at hbuild
      · exact hitem _ (congrArg some (Except.ok.inj hbuild))
      · cases hbuild

theorem yields_required (h : decode.Yields p) : (required name decode).Yields p :=
  yields_field h (fun _ he => nomatch he) (fun _ he => nomatch he)

theorem yields_optional {default : α} (h : decode.Yields p) (hdefault : p default) :
    (optional name default decode).Yields p :=
  yields_field h (fun _ he => Except.ok.inj he ▸ hdefault) fun _ he =>
    Option.some.inj he ▸ hdefault

theorem yields_nullable (h : decode.Yields p) :
    (nullable name decode).Yields fun value? => ∀ value ∈ value?, p value :=
  yields_optional (Decoder.yields_nullable h) fun _ he => nomatch he

/-- A record has what its fields put together have. -/
theorem yields_decode {fields : Fields α} [fields.Lawful] (h : fields.Yields p) :
    (fields.decode name).Yields p := by
  intro json hjson value hdecode
  cases json with
  | object members =>
    rw [decode_object (Json.distinct_object.1 hjson).1] at hdecode
    exact h (.ofMembers hjson) hdecode
  | array items => exact h (.ofItems hjson) (decode_array.1 hdecode).2
  | null | bool b | number n | string s => cases hdecode

/-- So does a record that keeps the members it does not know, whatever those are. -/
theorem yields_decodeOpen {fields : Fields (List (String × Json) → α)} [fields.Lawful]
    (h : fields.Yields fun make => ∀ rest, Members.IsMapOf Json.InOrder rest →
      Members.Rising rest →
        (∀ name ∈ Members.names rest, (fields.checks.lookup name).isNone = true) → p (make rest)) :
    (fields.decodeOpen name).Yields p := by
  intro json hjson value hdecode
  cases json with
  | object members =>
    obtain ⟨make, hbuild, rfl⟩ := (decodeOpen_object (Json.distinct_object.1 hjson).1).1 hdecode
    let rest : Members Json := Members.mapValues Json.canonical <|
      Members.keepNames (fun name => (fields.checks.lookup name).isNone) members
    have hnames : rest.names.Nodup := by
      rw [Members.names_mapValues]
      exact (Json.distinct_object.1 hjson).1.sublist (Members.names_keepNames_sublist _ members)
    have hkept : ∀ member ∈ rest.sorted,
        (fields.checks.lookup member.1).isNone = true ∧ member.2.InOrder := by
      intro member hmember
      obtain ⟨kept, hkept, rfl⟩ := List.mem_map.1 ((Members.mem_sorted hnames).1 hmember)
      exact ⟨(List.mem_filter.1 hkept).2, kept.2.canonical_canonical⟩
    refine h (.ofMembers hjson) hbuild _ ⟨(Members.rising_sorted _).nodup, fun member hmember =>
      (hkept member hmember).2⟩ (Members.rising_sorted _) fun name hname => ?_
    obtain ⟨member, hmember, rfl⟩ := List.mem_map.1 hname
    exact (hkept member hmember).1
  | null | bool b | number n | string s | array items => cases hdecode

end Fields

/-! ## Types -/

instance : TextContent.fields.Lawful := by
  unfold TextContent.fields
  infer_instance

instance : RichText.fields.Lawful := by
  unfold RichText.fields
  infer_instance

instance : UniqueId.fields.Lawful := by
  unfold UniqueId.fields
  infer_instance

instance : Database.fields.Lawful := by
  unfold Database.fields
  infer_instance

instance : Page.fields.Lawful := by
  unfold Page.fields
  infer_instance

instance {decode : Decoder α} : (Listing.fields decode).Lawful := by
  unfold Listing.fields
  infer_instance

open Fields

/-- A link that was read is not null. -/
theorem TextContent.yields_decode : decode.Yields WellFormed := by
  refine Fields.yields_decode fun given hgiven place text hbuild => ?_
  simp only [fields, build_seq_eq_ok_iff, build_map_eq_ok_iff] at hbuild
  obtain ⟨_, link, ⟨content, -, rfl⟩, hlink, rfl⟩ := hbuild
  exact yields_optional Decoder.yields_nullable_json (by simp) hgiven hlink

/-- What a segment keeps beside its fields has rising names. -/
theorem RichText.yields_decode : decode.Yields WellFormed := by
  refine yields_decodeOpen fun given hgiven place make hbuild => ?_
  simp only [fields, build_seq_eq_ok_iff, build_map_eq_ok_iff] at hbuild
  obtain ⟨_, plain, ⟨_, text, ⟨kind, -, rfl⟩, htext, rfl⟩, -, rfl⟩ := hbuild
  exact fun rest hrest hrising hunknown =>
    ⟨Fields.yields_nullable TextContent.yields_decode hgiven htext, hrest, hrising, hunknown⟩

/-- The number of an identifier fits in 64 bits. -/
theorem UniqueId.yields_decode : decode.Yields WellFormed := by
  refine Fields.yields_decode fun given hgiven place value hbuild => ?_
  simp only [fields, build_seq_eq_ok_iff, build_map_eq_ok_iff] at hbuild
  obtain ⟨_, number, ⟨label, -, rfl⟩, hnumber, rfl⟩ := hbuild
  exact Fields.yields_nullable Decoder.yields_natural hgiven hnumber

namespace TypedProperty

/-- A typed value is well formed if what its payload is read as is. -/
theorem wellFormed_of_reading {decode : Decoder α} {p : α → Prop} (h : decode.Yields p)
    (make : α → TypedProperty) (hmake : ∀ x, p x → (make x).WellFormed) {payload : Json}
    (hpayload : payload.distinct = true) :
    ∀ value ∈ reading decode make payload, value.WellFormed := by
  intro value hvalue
  obtain ⟨x, hx, rfl⟩ := reading_eq_some_iff.1 hvalue
  exact hmake x (h hpayload hx)

/-- So is a typed value of any kind. -/
theorem wellFormed_of_mem_kinds {payload : Json} (h : payload.distinct = true) :
    ∀ kind ∈ kinds, ∀ value ∈ kind.2 payload, value.WellFormed := by
  have hsegments := Decoder.yields_list RichText.yields_decode
  have hplain : ∀ {α : Type} (decode : Decoder α) (make : α → TypedProperty),
      (∀ x, (make x).WellFormed) → ∀ value ∈ reading decode make payload, value.WellFormed :=
    fun _ make hmake => wellFormed_of_reading Decoder.Yields.any make (fun x _ => hmake x) h
  simp only [kinds, List.forall_mem_cons]
  exact ⟨wellFormed_of_reading hsegments title (fun _ h => h) h,
    wellFormed_of_reading hsegments richText (fun _ h => h) h, hplain _ _ fun _ => trivial,
    hplain _ _ fun _ => trivial, hplain _ _ fun _ => trivial, hplain _ _ fun _ => trivial,
    hplain _ _ fun _ => trivial, hplain _ _ fun _ => trivial, hplain _ _ fun _ => trivial,
    hplain _ _ fun _ => trivial, hplain _ _ fun _ => trivial,
    wellFormed_of_reading UniqueId.yields_decode uniqueId (fun _ h => h) h, List.forall_mem_nil _⟩

/-- And so is every value that is typed. -/
theorem wellFormed_of_ofJson? {json : Json} (h : json.distinct = true) {value : TypedProperty}
    (hvalue : ofJson? json = some value) : value.WellFormed := by
  have hkind : ∀ {tag kind payload}, taggedKind? tag = some kind → payload.distinct = true →
      kind.2 payload = some value → value.WellFormed := fun htag hpayload hvalue =>
    wellFormed_of_mem_kinds hpayload _ (mem_of_taggedKind? htag) _ hvalue
  unfold ofJson? at hvalue
  split at hvalue
  · next members =>
    obtain ⟨kind, htold, hvalue⟩ := Option.bind_eq_some_iff.1 hvalue
    obtain ⟨tag, -, htag⟩ := Option.bind_eq_some_iff.1 htold
    exact hkind htag (distinct_payloadOf (Json.distinct_object.1 h).2 kind) hvalue
  · next tag payload =>
    obtain ⟨kind, htag, hvalue⟩ := Option.bind_eq_some_iff.1 hvalue
    exact hkind htag (Json.distinct_array.1 h payload (by simp)) hvalue
  · cases hvalue

end TypedProperty

/-- A value that is kept because it does not stand for a typed one does not do so afterwards. -/
theorem PropertyValue.yields_decode : decode.Yields WellFormed := by
  intro json hjson value hdecode
  rw [decode_ofJson (Json.nodup_of_distinct hjson)] at hdecode
  cases hdecode
  cases hknown : TypedProperty.ofJson? json with
  | none => exact ⟨json.canonical_canonical, (TypedProperty.ofJson?_canonical hjson).trans hknown⟩
  | some known => exact TypedProperty.wellFormed_of_ofJson? hjson hknown

/-- Properties have different names, and each value is well formed. -/
theorem Properties.yields_decode : decode.Yields (Members.IsMapOf PropertyValue.WellFormed) :=
  Decoder.yields_map PropertyValue.yields_decode

theorem Database.yields_decode : decode.Yields WellFormed := by
  refine Fields.yields_decode fun given hgiven place database hbuild => ?_
  simp only [fields, build_seq_eq_ok_iff, build_map_eq_ok_iff] at hbuild
  obtain ⟨_, url, ⟨_, archived, ⟨_, properties, ⟨_, parent, ⟨_, title, ⟨id, -, rfl⟩, htitle, rfl⟩,
    -, rfl⟩, hproperties, rfl⟩, -, rfl⟩, -, rfl⟩ := hbuild
  exact ⟨yields_optional (Decoder.yields_list RichText.yields_decode) (List.forall_mem_nil _) hgiven
      htitle,
    yields_optional (Decoder.yields_map Decoder.yields_json) (Members.isMapOf_nil _) hgiven
      hproperties⟩

theorem Schema.yields_decode : decode.Yields fun schema => schema.specs.IsMapOf Json.InOrder := by
  intro json hjson schema hdecode
  obtain ⟨specs, hspecs, rfl⟩ := map_eq_ok_iff.1 hdecode
  exact Decoder.yields_map Decoder.yields_json hjson hspecs

theorem Page.yields_decode : decode.Yields WellFormed := by
  refine Fields.yields_decode fun given hgiven place page hbuild => ?_
  simp only [fields, build_seq_eq_ok_iff, build_map_eq_ok_iff] at hbuild
  obtain ⟨_, edited, ⟨_, created, ⟨_, url, ⟨_, archived, ⟨_, properties, ⟨_, parent, ⟨id, -, rfl⟩,
    -, rfl⟩, hproperties, rfl⟩, -, rfl⟩, -, rfl⟩, -, rfl⟩, -, rfl⟩ := hbuild
  exact yields_optional Properties.yields_decode (Members.isMapOf_nil _) hgiven hproperties

/-- What holds of every item that is read holds of the items of a list. -/
theorem Listing.yields_decode {decode : Decoder α} {p : α → Prop} (h : decode.Yields p) :
    (Listing.decode decode).Yields fun listing => ∀ item ∈ listing.results, p item := by
  refine Fields.yields_decode fun given hgiven place listing hbuild => ?_
  simp only [fields, build_seq_eq_ok_iff, build_map_eq_ok_iff] at hbuild
  obtain ⟨_, hasMore, ⟨_, cursor, ⟨_, results, ⟨object, -, rfl⟩, hresults, rfl⟩, -, rfl⟩, -, rfl⟩ :=
    hbuild
  exact yields_required (Decoder.yields_list h) hgiven hresults

end NotionProject
