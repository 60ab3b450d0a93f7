import NotionProject.Proofs.Typing

/-!
# The order of members

What a value of different names is read as does not depend on the order of the members of any
object in it: it is read as its canonical form is (`Decoder.IgnoresOrder`). That passes from the
decoders of parts to those of lists and records, so for the decoders of properties it is inferred. A
value that is kept because it is not typed therefore does not become typed by being written with its
names in order (`TypedProperty.ofJson?_canonical`).
-/

namespace NotionProject

open Json Members

variable {α β : Type}

/-- The decoder reads a value of different names as it reads its canonical form. -/
class Decoder.IgnoresOrder (decode : Decoder α) : Prop where
  decode_canonical {json : Json} (h : json.distinct = true) {value : α} :
    Decoder.ofJson decode json.canonical = .ok value ↔ Decoder.ofJson decode json = .ok value

/-- The description finds the same fields in the canonical forms of an object and of an array. -/
class Fields.IgnoresOrder (fields : Fields α) : Prop where
  build_sorted {members : Members Json} (h : (object members).distinct = true) {place : Nat}
    {value : α} :
    fields.build (.ofMembers (members.mapValues canonical).sorted) place = .ok value ↔
      fields.build (.ofMembers members) place = .ok value
  build_map {items : List Json} (h : (array items).distinct = true) {expected : String}
    {place : Nat} {value : α} :
    fields.build (.ofItems (items.map canonical) expected) place = .ok value ↔
      fields.build (.ofItems items expected) place = .ok value

/-! ## Plain values, and lists of values -/

namespace Decoder

/-- A decoder that reads no array and no object. -/
theorem IgnoresOrder.of_plain {decode : Decoder α}
    (harray : ∀ items value, ofJson decode (.array items) ≠ .ok value)
    (hobject : ∀ members value, ofJson decode (.object members) ≠ .ok value) :
    decode.IgnoresOrder where
  decode_canonical {json} _ {value} := by
    cases json with
    | array items => exact iff_of_false (harray _ value) (harray _ value)
    | object members => exact iff_of_false (hobject _ value) (hobject _ value)
    | null | bool b | number n | string s => exact Iff.rfl

instance : string.IgnoresOrder := .of_plain nofun nofun

instance : bool.IgnoresOrder := .of_plain nofun nofun

instance : real.IgnoresOrder := .of_plain nofun nofun

instance {most : Nat} {expected : String} : (natural most expected).IgnoresOrder :=
  .of_plain nofun nofun

instance : json.IgnoresOrder where
  decode_canonical {json} _ {value} := by
    simp only [ofJson, Decoder.json, Source.toJson_ofJson, canonical_canonical]

variable {decode : Decoder α} [decode.IgnoresOrder]

instance : (nullable decode).IgnoresOrder where
  decode_canonical {json} h {value} := by
    by_cases hnull : json = .null
    · rw [hnull]
      rfl
    · have hcanonical : json.canonical ≠ .null := by
        cases json <;> simp_all [canonical]
      simp only [ofJson_nullable_of_ne hnull, ofJson_nullable_of_ne hcanonical, map_eq_ok_iff,
        IgnoresOrder.decode_canonical h]

/-- Items are read as their canonical forms are, one by one. -/
theorem forall₂_canonical {items : List Json} (h : ∀ json ∈ items, json.distinct = true)
    {values : List α} :
    List.Forall₂ (fun json value => ofJson decode json = .ok value) (items.map canonical) values ↔
      List.Forall₂ (fun json value => ofJson decode json = .ok value) items values := by
  induction items generalizing values with
  | nil => simp
  | cons json rest ih =>
    obtain ⟨hjson, hrest⟩ := List.forall_mem_cons.1 h
    simp only [List.map_cons, List.forall₂_cons_left_iff, IgnoresOrder.decode_canonical hjson,
      ih hrest]

instance : (list decode).IgnoresOrder where
  decode_canonical {json} h {value} := by
    cases json with
    | array items =>
      rw [canonical, canonicalItems_eq, ofJson_list_array, ofJson_list_array,
        forall₂_canonical (distinct_array.1 h)]
    | object members => exact iff_of_false nofun nofun
    | null | bool b | number n | string s => exact Iff.rfl

end Decoder

/-! ## Records -/

namespace Fields

instance {f : α → β} {fields : Fields α} [fields.IgnoresOrder] : (f <$> fields).IgnoresOrder where
  build_sorted {members} h {place value} := by
    simp only [build_map_eq_ok_iff, IgnoresOrder.build_sorted h]
  build_map {items} h {expected place value} := by
    simp only [build_map_eq_ok_iff, IgnoresOrder.build_map h]

instance {f : Fields (α → β)} {x : Fields α} [f.IgnoresOrder] [x.IgnoresOrder] :
    (f <*> x).IgnoresOrder where
  build_sorted {members} h {place value} := by
    simp only [build_seq_eq_ok_iff, IgnoresOrder.build_sorted h]
  build_map {items} h {expected place value} := by
    simp only [build_seq_eq_ok_iff, IgnoresOrder.build_map h]

section Single

variable {name : String} {decode : Decoder α} [decode.IgnoresOrder]

instance {missing : Except DecodeError α} {missingItem : Option α} :
    (field name decode missing missingItem).IgnoresOrder where
  build_sorted {members} h {place value} := by
    obtain ⟨hnodup, hvalues⟩ := distinct_object.1 h
    rw [build_field_ofMembers, build_field_ofMembers,
      find?_sorted ((names_mapValues canonical members).symm ▸ hnodup), find?_mapValues]
    cases hfind : members.find? name with
    | none => exact Iff.rfl
    | some json =>
      exact Decoder.IgnoresOrder.decode_canonical (hvalues _ (mem_of_find?_eq_some hfind))
  build_map {items} h {expected place value} := by
    rw [build_field_ofItems, build_field_ofItems, List.getElem?_map]
    cases hitem : items[place]? with
    | none => exact Iff.rfl
    | some json =>
      exact Decoder.IgnoresOrder.decode_canonical
        (distinct_array.1 h json (List.mem_of_getElem? hitem))

instance : (required name decode).IgnoresOrder :=
  inferInstanceAs (field ..).IgnoresOrder

instance {default : α} : (optional name default decode).IgnoresOrder :=
  inferInstanceAs (field ..).IgnoresOrder

instance : (nullable name decode).IgnoresOrder :=
  inferInstanceAs (optional ..).IgnoresOrder

end Single

instance {fields : Fields α} [fields.Lawful] [fields.IgnoresOrder] {name : String} :
    (fields.decode name).IgnoresOrder where
  decode_canonical {json} h {value} := by
    cases json with
    | object members =>
      rw [canonical_object, decode_object (rising_sorted _).nodup,
        decode_object (distinct_object.1 h).1, IgnoresOrder.build_sorted h]
    | array items =>
      rw [canonical, canonicalItems_eq, decode_array, decode_array, List.length_map,
        IgnoresOrder.build_map h]
    | null | bool b | number n | string s => exact Iff.rfl

/-- What else an object of different names holds does not depend on the order of its members. -/
theorem rest_sorted {members : Members Json} (h : members.names.Nodup) (keep : String → Bool) :
    (((members.mapValues canonical).sorted.keepNames keep).mapValues canonical).sorted =
      ((members.keepNames keep).mapValues canonical).sorted := by
  have hmapped : (members.mapValues canonical).names.Nodup := by rwa [names_mapValues]
  have hsorted : (((members.mapValues canonical).sorted.keepNames keep).mapValues
      canonical).names.Nodup := by
    rw [names_mapValues]
    exact ((rising_sorted _).keepNames keep).nodup
  have hkept : ((members.keepNames keep).mapValues canonical).names.Nodup := by
    rw [names_mapValues]
    exact h.sublist (names_keepNames_sublist keep members)
  -- Sorting and keeping names commute up to order, which rising names do not leave open.
  refine (rising_sorted _).eq_of_find? (rising_sorted _) fun name => ?_
  rw [find?_sorted hsorted, find?_sorted hkept, find?_mapValues, find?_mapValues, find?_keepNames,
    find?_keepNames, find?_sorted hmapped, find?_mapValues]
  split
  · simp [canonical_canonical, Function.comp_def]
  · rfl

instance {fields : Fields (List (String × Json) → α)} [fields.Lawful] [fields.IgnoresOrder]
    {name : String} : (fields.decodeOpen name).IgnoresOrder where
  decode_canonical {json} h {value} := by
    cases json with
    | object members =>
      rw [canonical_object, decodeOpen_object (rising_sorted _).nodup,
        decodeOpen_object (distinct_object.1 h).1]
      simp only [IgnoresOrder.build_sorted h, rest_sorted (distinct_object.1 h).1]
    | array items => exact iff_of_false nofun nofun
    | null | bool b | number n | string s => exact Iff.rfl

end Fields

/-! ## Payloads of properties -/

instance : RichText.decode.IgnoresOrder := by
  unfold RichText.decode RichText.fields TextContent.decode TextContent.fields
  infer_instance

instance : SelectOption.decode.IgnoresOrder := by
  unfold SelectOption.decode SelectOption.fields
  infer_instance

instance : DateValue.decode.IgnoresOrder := by
  unfold DateValue.decode DateValue.fields
  infer_instance

instance : UniqueId.decode.IgnoresOrder := by
  unfold UniqueId.decode UniqueId.fields
  infer_instance

instance : RichText.decodeList.IgnoresOrder := by
  unfold RichText.decodeList
  infer_instance

namespace TypedProperty

/-- A payload is read as its canonical form is. -/
theorem reading_canonical {decode : Decoder α} [decode.IgnoresOrder] (make : α → TypedProperty)
    {payload : Json} (h : payload.distinct = true) :
    reading decode make payload.canonical = reading decode make payload := by
  refine Option.ext fun value => ?_
  rw [reading_eq_some_iff, reading_eq_some_iff]
  simp only [Decoder.IgnoresOrder.decode_canonical h]

theorem kinds_canonical {payload : Json} (h : payload.distinct = true) :
    ∀ kind ∈ kinds, kind.2 payload.canonical = kind.2 payload := by
  simp only [kinds, List.forall_mem_cons, reading_canonical _ h, true_and]
  exact List.forall_mem_nil _

theorem mem_of_taggedKind? {tag : Json} {kind : PayloadKind} (h : taggedKind? tag = some kind) :
    kind ∈ kinds := by
  unfold taggedKind? at h
  split at h
  · exact List.mem_of_find?_eq_some h
  · split at h
    · exact List.mem_of_getElem? h
    · cases h
  · cases h

/-- A tag is its own canonical form. -/
theorem taggedKind?_canonical (tag : Json) : taggedKind? tag.canonical = taggedKind? tag := by
  cases tag <;> rfl

/-- In the canonical form of an object stands the canonical form of the payload. -/
theorem payloadOf_sorted {members : Members Json} (h : members.names.Nodup) (kind : PayloadKind) :
    payloadOf (members.mapValues canonical).sorted kind = (payloadOf members kind).canonical := by
  rw [payloadOf, payloadOf, find?_sorted ((names_mapValues canonical members).symm ▸ h),
    find?_mapValues]
  cases members.find? kind.1 <;> rfl

theorem distinct_payloadOf {members : Members Json}
    (h : ∀ member ∈ members, member.2.distinct = true) (kind : PayloadKind) :
    (payloadOf members kind).distinct = true := by
  rw [payloadOf]
  cases hfind : members.find? kind.1 with
  | none => rfl
  | some payload => exact h _ (mem_of_find?_eq_some hfind)

/-- The typed value that a value of different names stands for does not depend on their order. -/
theorem ofJson?_canonical {json : Json} (h : json.distinct = true) :
    ofJson? json.canonical = ofJson? json := by
  cases json with
  | object members =>
    obtain ⟨hnodup, hvalues⟩ := distinct_object.1 h
    have htag : (find? (sorted (mapValues canonical members)) "type").bind taggedKind? =
        (find? members "type").bind taggedKind? := by
      rw [find?_sorted ((names_mapValues canonical members).symm ▸ hnodup), find?_mapValues,
        Option.bind_map]
      congr 1
      funext tag
      exact taggedKind?_canonical tag
    rw [canonical_object, ofJson?, ofJson?, htag]
    cases hkind : (find? members "type").bind taggedKind? with
    | none => rfl
    | some kind =>
      obtain ⟨tag, -, htold⟩ := Option.bind_eq_some_iff.1 hkind
      rw [Option.bind_some, Option.bind_some, payloadOf_sorted hnodup]
      exact kinds_canonical (distinct_payloadOf hvalues kind) kind (mem_of_taggedKind? htold)
  | array items =>
    rw [canonical, canonicalItems_eq]
    rcases items with - | ⟨tag, - | ⟨payload, - | ⟨next, rest⟩⟩⟩
    · rfl
    · rfl
    · simp only [List.map_cons, List.map_nil, ofJson?, taggedKind?_canonical]
      cases hkind : taggedKind? tag with
      | none => rfl
      | some kind =>
        exact kinds_canonical (distinct_array.1 h payload (by simp)) kind (mem_of_taggedKind? hkind)
    · rfl
  | null | bool b | number n | string s => rfl

end TypedProperty

/-- A value of a property is read as its canonical form is. -/
instance : PropertyValue.decode.IgnoresOrder where
  decode_canonical {json} h {value} := by
    have hnodup : ∀ members : Members Json, json.canonical = .object members →
        members.names.Nodup := by
      intro members he
      cases json with
      | object given =>
        rw [canonical_object] at he
        cases he
        exact (rising_sorted _).nodup
      | null | bool b | number n | string s | array items => cases he
    rw [PropertyValue.decode_ofJson hnodup,
      PropertyValue.decode_ofJson (nodup_of_distinct h), TypedProperty.ofJson?_canonical h,
      canonical_canonical]

end NotionProject
