import NotionProject.Property
import NotionProject.Proofs.Decoding
import Mathlib.Data.List.Forall2

/-!
# Which values are typed

Whether the value of a property is typed is decided by trial: it is if its tag tells a kind and its
payload can be read as one of that kind. `TypedProperty.ofJson?` says which value that is, by a
table of the kinds and their payloads (`TypedProperty.kinds`), without going through members in
order; the trial comes to the same (`TypedProperty.decode_eq_ok_iff`), because each variant of the
union reads what the table says (`TypedProperty.isKind_variants`).

Every other value is kept as it is (`PropertyValue.keeps_others`). A value may however tell its kind
in other ways than it is written: as an array, and by the place of the kind among all kinds. Such a
value is typed too, although it has no marker (`PropertyValue.retypes_array`).
-/

namespace NotionProject

namespace TypedProperty

/-! ## The kinds and their payloads -/

/-- Reads a payload of one kind. -/
def reading {α : Type} (decode : Decoder α) (make : α → TypedProperty) (payload : Json) :
    Option TypedProperty :=
  (Decoder.ofJson decode payload).toOption.map make

/-- A marker, and how the payload under it is read. -/
abbrev PayloadKind := String × (Json → Option TypedProperty)

/-- The known markers, in order, and how the payloads are read. -/
def kinds : List PayloadKind :=
  [("title", reading RichText.decodeList title),
    ("rich_text", reading RichText.decodeList richText),
    ("number", reading (Decoder.nullable Decoder.real) number),
    ("select", reading (Decoder.nullable SelectOption.decode) select),
    ("multi_select", reading (Decoder.list SelectOption.decode) multiSelect),
    ("status", reading (Decoder.nullable SelectOption.decode) status),
    ("checkbox", reading Decoder.bool checkbox),
    ("url", reading (Decoder.nullable Decoder.string) url),
    ("email", reading (Decoder.nullable Decoder.string) email),
    ("phone_number", reading (Decoder.nullable Decoder.string) phoneNumber),
    ("date", reading (Decoder.nullable DateValue.decode) date),
    ("unique_id", reading UniqueId.decode uniqueId)]

/-- The kind with a marker. -/
def kindOf? (marker : String) : Option PayloadKind :=
  kinds.find? fun kind => kind.1 == marker

/-- The kind that a tag tells, by its marker or by its place. -/
def taggedKind? : Json → Option PayloadKind
  | .string marker => kindOf? marker
  | .number (.integer n) => if 0 ≤ n then kinds[n.toNat]? else none
  | _ => none

/-- The payload that an object has for a kind; what is missing is null. -/
def payloadOf (members : Members Json) (kind : PayloadKind) : Json :=
  .orNull (members.find? kind.1)

/-- The typed value that a value stands for, if it is one. -/
def ofJson? : Json → Option TypedProperty
  | .object members =>
    ((Members.find? members "type").bind taggedKind?).bind fun kind =>
      kind.2 (payloadOf members kind)
  | .array [tag, payload] => (taggedKind? tag).bind fun kind => kind.2 payload
  | _ => none

/-- A variant of the union reads the payloads of a kind. -/
structure IsKind (variant : Variant TypedProperty) (kind : PayloadKind) : Prop where
  tag_eq : variant.tag = kind.1
  marker_ne : (kind.1 != Union.tagName) = true
  lawful : variant.fields.Lawful
  build_iff : ∀ (members : Members Json) (value : TypedProperty),
    variant.fields.build (.ofMembers members) 0 = .ok value ↔
      kind.2 (payloadOf members kind) = some value
  items_iff : ∀ (items : List Json) (value : TypedProperty),
    union.decodeItems variant (items.map Source.ofJson) = .ok value ↔
      ∃ payload, items = [payload] ∧ kind.2 payload = some value

section Payloads

variable {α : Type} {decode : Decoder α} {name : String}

/-- A payload of a kind is typed if it is read. -/
theorem reading_eq_some_iff {make : α → TypedProperty} {payload : Json} {value : TypedProperty} :
    reading decode make payload = some value ↔
      ∃ x, Decoder.ofJson decode payload = .ok x ∧ make x = value := by
  unfold reading
  cases Decoder.ofJson decode payload <;> simp [Except.toOption]

/-- The items after a tag are read as a payload if there is one. -/
theorem decodeItems_field {tag label : String} {make : α → TypedProperty}
    {missing : Except DecodeError α} {items : List Json} {value : TypedProperty} :
    union.decodeItems ⟨tag, label, make <$> Fields.field name decode missing none⟩
        (items.map Source.ofJson) = .ok value ↔
      ∃ payload, items = [payload] ∧ reading decode make payload = some value := by
  have hone : (make <$> Fields.field name decode missing none).checks.length = 1 := rfl
  rw [Union.decodeItems, bind_eq_ok_iff]
  change (∃ read, (make <$> Fields.field name decode missing none).build
    (.ofItems items _) 0 = .ok read ∧ _) ↔ _
  simp only [Fields.build_map_eq_ok_iff, Fields.build_field_ofItems_eq_ok_iff,
    reading_eq_some_iff, hone, List.length_map]
  rcases items with - | ⟨payload, - | ⟨next, rest⟩⟩
  · simp
  · simp [pure, Except.pure]
  · simp

/-- A kind whose payload may not be null is typed from a payload that is there. -/
theorem isKind_payload (make : α → TypedProperty) (hname : (name != Union.tagName) = true)
    (hnull : ∀ x, Decoder.ofJson decode .null ≠ .ok x) :
    IsKind (payload name make decode) (name, reading decode make) where
  tag_eq := rfl
  marker_ne := hname
  lawful := inferInstanceAs (make <$> Fields.required name decode).Lawful
  build_iff members value := by
    simp only [payload, Fields.build_map_eq_ok_iff, Fields.build_required_ofMembers,
      reading_eq_some_iff, payloadOf]
    cases members.find? name with
    | none => simp [hnull]
    | some json => simp
  items_iff _ _ := decodeItems_field

/-- A kind whose payload may be null is typed from one that is missing, too. -/
theorem isKind_payload? (make : Option α → TypedProperty) (hname : (name != Union.tagName) = true) :
    IsKind (payload? name make decode) (name, reading (Decoder.nullable decode) make) where
  tag_eq := rfl
  marker_ne := hname
  lawful := inferInstanceAs (make <$> Fields.nullableMember name decode).Lawful
  build_iff members value := by
    simp only [payload?, Fields.build_map_eq_ok_iff, Fields.build_nullableMember_ofMembers,
      reading_eq_some_iff, payloadOf]
  items_iff _ _ := decodeItems_field

end Payloads

theorem isKind_variants : List.Forall₂ IsKind union.variants kinds := by
  refine .cons (isKind_payload title rfl nofun) <| .cons (isKind_payload richText rfl nofun) <|
    .cons (isKind_payload? number rfl) <| .cons (isKind_payload? select rfl) <|
    .cons (isKind_payload multiSelect rfl nofun) <| .cons (isKind_payload? status rfl) <|
    .cons (isKind_payload checkbox rfl nofun) <| .cons (isKind_payload? url rfl) <|
    .cons (isKind_payload? email rfl) <| .cons (isKind_payload? phoneNumber rfl) <|
    .cons (isKind_payload? date rfl) <| .cons (isKind_payload uniqueId rfl nofun) .nil

/-! ## Tags -/

theorem rel_find? {variants : List (Variant TypedProperty)} {kinds : List PayloadKind}
    (h : List.Forall₂ IsKind variants kinds) (marker : String) :
    Option.Rel IsKind (variants.find? fun variant => variant.tag == marker)
      (kinds.find? fun kind => kind.1 == marker) := by
  induction h with
  | nil => exact .none
  | @cons variant kind variants kinds hkind _ ih =>
    simp only [List.find?_cons, hkind.tag_eq]
    split
    · exact .some hkind
    · exact ih

theorem rel_getElem? {variants : List (Variant TypedProperty)} {kinds : List PayloadKind}
    (h : List.Forall₂ IsKind variants kinds) (place : Nat) :
    Option.Rel IsKind variants[place]? kinds[place]? := by
  induction h generalizing place with
  | nil => exact .none
  | cons hkind _ ih =>
    cases place with
    | zero => exact .some hkind
    | succ place => exact ih place

/-- A tag tells the variant of the kind that it tells. -/
theorem rel_taggedVariant? (tag : Json) :
    Option.Rel IsKind (union.taggedVariant? tag) (taggedKind? tag) := by
  cases tag with
  | string marker => exact rel_find? isKind_variants marker
  | number number =>
    cases number with
    | integer n =>
      have hnumbered : union.byNumber = true := rfl
      simp only [Union.taggedVariant?, taggedKind?, hnumbered, true_and]
      split
      · exact rel_getElem? isKind_variants n.toNat
      · exact .none
    | real x => exact .none
  | null | bool b | array items | object members => exact .none

theorem lawful_variants : ∀ variant ∈ union.variants, variant.fields.Lawful := by
  intro variant hvariant
  obtain ⟨place, hplace⟩ := List.mem_iff_getElem?.1 hvariant
  have hrel := rel_getElem? isKind_variants place
  rw [hplace] at hrel
  generalize kinds[place]? = kind at hrel
  cases hrel with
  | some hkind => exact hkind.lawful

/-- What holds of a variant exactly if it holds of its kind is the same for what a tag tells of
both. -/
theorem exists_iff_of_rel {variant? : Option (Variant TypedProperty)} {kind? : Option PayloadKind}
    (h : Option.Rel IsKind variant? kind?) {p : Variant TypedProperty → Prop}
    {q : PayloadKind → Prop} (hpq : ∀ {variant kind}, IsKind variant kind → (p variant ↔ q kind)) :
    (∃ variant, variant? = some variant ∧ p variant) ↔ ∃ kind, kind? = some kind ∧ q kind := by
  cases h with
  | none => simp
  | some hkind => simp [hpq hkind]

/-! ## Values -/

theorem payloadOf_keepNames {kind : PayloadKind} (h : (kind.1 != Union.tagName) = true)
    (members : Members Json) :
    payloadOf (members.keepNames (· != Union.tagName)) kind = payloadOf members kind := by
  rw [payloadOf, payloadOf, Members.find?_keepNames, if_pos h]

/-- From an object the trial types what the tag and the payload of its kind tell. -/
theorem decode_object_iff {members : Members Json} (h : members.names.Nodup)
    {value : TypedProperty} :
    Decoder.ofJson union.decode (.object members) = .ok value ↔
      ofJson? (.object members) = some value := by
  have hrel : Option.Rel IsKind ((Members.find? members Union.tagName).bind union.taggedVariant?)
      ((Members.find? members "type").bind taggedKind?) := by
    rw [Union.tagName]
    cases Members.find? members "type" with
    | none => exact .none
    | some tag => exact rel_taggedVariant? tag
  -- The tag is taken away before the payload is looked for, so no marker may be its name.
  rw [Union.decode_object lawful_variants h, ofJson?, Option.bind_eq_some_iff]
  refine exists_iff_of_rel hrel fun {variant kind} hkind => ?_
  rw [hkind.build_iff, payloadOf_keepNames hkind.marker_ne]

/-- From an array it types what a tag and the one item after it tell. -/
theorem decode_array_iff {items : List Json} {value : TypedProperty} :
    Decoder.ofJson union.decode (.array items) = .ok value ↔
      ofJson? (.array items) = some value := by
  have htold : ∀ (tag : Json) (rest : List Json),
      (∃ variant, union.taggedVariant? tag = some variant ∧
      union.decodeItems variant (rest.map Source.ofJson) = .ok value) ↔
        ∃ kind, taggedKind? tag = some kind ∧ ∃ payload, rest = [payload] ∧
          kind.2 payload = some value := fun tag rest =>
    exists_iff_of_rel (rel_taggedVariant? tag) fun hkind => hkind.items_iff rest value
  rw [Union.decode_array]
  simp only [exists_and_left, htold]
  rcases items with - | ⟨tag, - | ⟨payload, - | ⟨next, rest⟩⟩⟩
  · simp [ofJson?]
  · simp [ofJson?]
  · simp [ofJson?, Option.bind_eq_some_iff]
  · simp [ofJson?]

/-- The trial finds the typed value that a value of different names stands for. -/
theorem decode_eq_ok_iff {json : Json}
    (h : ∀ members, json = .object members → (Members.names members).Nodup)
    {value : TypedProperty} :
    Decoder.ofJson union.decode json = .ok value ↔ ofJson? json = some value := by
  cases json with
  | object members => exact decode_object_iff (h members rfl)
  | array items => exact decode_array_iff
  | null | bool b | number n | string s => exact ⟨nofun, nofun⟩

end TypedProperty

/-! ## Values that are kept -/

open TypedProperty

namespace Json

/-- No marker tells a kind whose payload the value has. -/
def IsOther (json : Json) : Prop :=
  ∀ members marker kind, json = .object members →
    Members.find? members "type" = some (.string marker) → kindOf? marker = some kind →
      kind.2 (payloadOf members kind) = none

/-- The value tells a kind whose payload it has in one of the ways in which no value is written: as
an array of a tag and the payload, or by the place of the kind among all kinds. -/
inductive TellsOtherwise : Json → Prop where
  | items {tag payload : Json} {kind : PayloadKind} {known : TypedProperty}
      (hkind : taggedKind? tag = some kind) (hpayload : kind.2 payload = some known) :
      TellsOtherwise (.array [tag, payload])
  | numbered {members : Members Json} {n : Int} {kind : PayloadKind} {known : TypedProperty}
      (htag : Members.find? members "type" = some (int n))
      (hkind : taggedKind? (int n) = some kind)
      (hpayload : kind.2 (payloadOf members kind) = some known) :
      TellsOtherwise (.object members)

theorem ofJson?_of_tellsOtherwise {json : Json} (h : json.TellsOtherwise) :
    ∃ known, TypedProperty.ofJson? json = some known := by
  cases h with
  | @items tag payload kind known hkind hpayload =>
    exact ⟨known, by simp [ofJson?, hkind, hpayload]⟩
  | @numbered members n kind known htag hkind hpayload =>
    exact ⟨known, by simp [ofJson?, htag, hkind, hpayload]⟩

/-- Another value is typed only if it tells its kind otherwise. -/
theorem tellsOtherwise_of_ofJson? {json : Json} {known : TypedProperty} (hother : json.IsOther)
    (h : TypedProperty.ofJson? json = some known) : json.TellsOtherwise := by
  unfold TypedProperty.ofJson? at h
  split at h
  · next members =>
    obtain ⟨kind, htag, hpayload⟩ := Option.bind_eq_some_iff.1 h
    obtain ⟨tag, hfind, hkind⟩ := Option.bind_eq_some_iff.1 htag
    unfold taggedKind? at hkind
    split at hkind
    · next marker =>
      rw [hother members marker kind rfl hfind hkind] at hpayload
      cases hpayload
    · next n => exact .numbered hfind hkind hpayload
    · cases hkind
  · obtain ⟨kind, hkind, hpayload⟩ := Option.bind_eq_some_iff.1 h
    exact .items hkind hpayload
  · cases h

end Json

namespace PropertyValue

/-- A value is typed if it stands for a typed value, and else it is kept. -/
theorem decode_ofJson {json : Json}
    (h : ∀ members, json = .object members → (Members.names members).Nodup) :
    Decoder.ofJson decode json =
      .ok (((TypedProperty.ofJson? json).map typed).getD (untyped json.canonical)) := by
  rw [Decoder.ofJson, decode, Decoder.json, Source.toJson_ofJson]
  cases htrial : Decoder.ofJson TypedProperty.union.decode json with
  | ok known =>
    rw [(TypedProperty.decode_eq_ok_iff h).1 htrial]
    rw [Decoder.ofJson] at htrial
    simp [ofTextError, htrial, bind, Except.bind, pure, Except.pure]
  | error error =>
    have hnone : TypedProperty.ofJson? json = none := by
      refine Option.eq_none_iff_forall_ne_some.2 fun known hknown => ?_
      rw [(TypedProperty.decode_eq_ok_iff h).2 hknown] at htrial
      cases htrial
    rw [hnone]
    rw [Decoder.ofJson] at htrial
    simp [ofTextError, htrial, bind, Except.bind, pure, Except.pure]

/-- Every value can be read. -/
theorem exists_decode_ofJson (json : Json) : ∃ value, Decoder.ofJson decode json = .ok value := by
  rw [Decoder.ofJson, decode, Decoder.json, Source.toJson_ofJson]
  cases TypedProperty.union.decode (.ofJson json) with
  | ok known => exact ⟨typed known, rfl⟩
  | error error => exact ⟨untyped json.canonical, rfl⟩

end PropertyValue

theorem Properties.exists_decode_object (members : Members Json) :
    ∃ properties, Decoder.ofJson decode (.object members) = .ok properties := by
  have hentries : ∀ members : Members Json, ∃ entries,
      Decoder.entries PropertyValue.decode (Source.ofMembers members) = .ok entries := by
    intro members
    induction members with
    | nil => exact ⟨[], rfl⟩
    | cons member rest ih =>
      obtain ⟨name, json⟩ := member
      obtain ⟨value, hvalue⟩ := PropertyValue.exists_decode_ofJson json
      obtain ⟨entries, hentries⟩ := ih
      rw [Decoder.ofJson] at hvalue
      refine ⟨(name, value) :: entries, ?_⟩
      simp [Source.ofMembers, Decoder.entries, ofTextError, hvalue, hentries, bind, Except.bind,
        pure, Except.pure]
  obtain ⟨entries, hentries⟩ := hentries members
  refine ⟨Members.collapse entries, ?_⟩
  simp [Decoder.ofJson, Source.ofJson, decode, Decoder.map, hentries, ofTextError, Source.endOf,
    bind, Except.bind, pure, Except.pure]

namespace PropertyValue

/-- Every value can be read, and with it any properties. A value that does not tell a kind by its
marker, or whose payload is none of that kind, is kept, with its type as its marker, and written as
it was, its names in rising order; unless it tells its kind otherwise, and then it is typed. -/
theorem keeps_others (json : Json) (members : Members Json) :
    (∃ value, Decoder.ofJson decode json = .ok value) ∧
    (∃ properties, Decoder.ofJson Properties.decode (.object members) = .ok properties) ∧
    (json.distinct = true → json.IsOther →
      (¬json.TellsOtherwise →
        Decoder.ofJson decode json = .ok (untyped json.canonical) ∧
          (untyped json.canonical).marker? = (json.member? "type").bind Json.asString? ∧
          (untyped json.canonical).toJson = json.canonical) ∧
      (json.TellsOtherwise → ∃ known, Decoder.ofJson decode json = .ok (typed known))) := by
  refine ⟨exists_decode_ofJson json, Properties.exists_decode_object members,
    fun hdistinct hother => ?_⟩
  rw [decode_ofJson (Json.nodup_of_distinct hdistinct)]
  refine ⟨fun h => ⟨?_, ?_, rfl⟩, fun h => ?_⟩
  · have hnone : TypedProperty.ofJson? json = none :=
      Option.eq_none_iff_forall_ne_some.2 fun known hknown =>
        h (Json.tellsOtherwise_of_ofJson? hother hknown)
    rw [hnone]
    rfl
  · rw [marker?, Json.member?_canonical hdistinct, Option.bind_map]
    congr 1
    funext value
    exact value.asString?_canonical
  · obtain ⟨known, hknown⟩ := Json.ofJson?_of_tellsOtherwise h
    exact ⟨known, by rw [hknown]; rfl⟩

/-- A value with a marker that is not known. -/
def sampleOther : Json :=
  .object [("formula", .bool true), ("type", .string "formula")]

/-- It is kept, and has its type as its marker. -/
theorem keeps_others_unknown :
    Decoder.ofJson decode sampleOther = .ok (untyped sampleOther.canonical) ∧
      (untyped sampleOther.canonical).marker? = some "formula" ∧
      sampleOther.canonical = sampleOther := by
  have hother : sampleOther.IsOther := by
    intro members marker kind he htype hkind
    cases he
    have hmarker : "formula" = marker := by simpa [Members.find?] using htype
    subst hmarker
    simp [kindOf?, kinds] at hkind
  have hwritten : ¬sampleOther.TellsOtherwise := by
    intro h
    cases h with
    | numbered htag => simp [Members.find?, Json.int] at htag
  obtain ⟨hdecode, hmarker, -⟩ := ((keeps_others sampleOther []).2.2 (by decide) hother).1 hwritten
  refine ⟨hdecode, ?_, ?_⟩
  · simpa [sampleOther, Json.member?, Members.find?, Json.asString?] using hmarker
  · have hrising : Members.Rising [("formula", Json.bool true), ("type", .string "formula")] :=
      List.pairwise_pair.2 (by decide +kernel)
    rw [sampleOther, Json.canonical_object]
    exact congrArg Json.object (Members.sorted_eq_self hrising)

/-- An array of a marker and its payload is typed, and is not written as it was. -/
theorem retypes_array :
    Decoder.ofJson decode (.array [.string "checkbox", .bool true]) = .ok (typed (.checkbox true)) ∧
      (typed (.checkbox true)).toJson =
        .object [("type", .string "checkbox"), ("checkbox", .bool true)] ∧
      (typed (.checkbox true)).toJson ≠ .array [.string "checkbox", .bool true] :=
  ⟨by rfl, rfl, nofun⟩

end PropertyValue

end NotionProject
