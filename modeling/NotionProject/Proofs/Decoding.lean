import NotionProject.Decode.Tagged
import NotionProject.Proofs.JsonForm
import NotionProject.Proofs.Reading
import Mathlib.Data.List.Forall2

/-!
# Records and unions of values

An object is read as a record if no field is there twice, each other member is in order, and the
fields can be put together from what is under their names (`Fields.decodeMembers_iff`): the search
for the first error then finds none, in whatever order the members stand. That is so for records
whose fields are read in the search as they are read afterwards (`Fields.Lawful`), and every
description that is put together from single fields is of this kind. An object of different names is
read if its fields can be put together, and only then (`Fields.decode_object`).

A union is read by the one member that tells the kind, wherever it stands, if every other member can
be read as a value (`Union.decode_iff`, `Union.decode_object`), or by the first item of an array
(`Union.decode_array`).
-/

namespace NotionProject

variable {α β : Type}

/-! ## Parts -/

namespace Decoder

variable {decode : Decoder α}

theorem ofJson_nullable_of_ne {json : Json} (h : json ≠ .null) :
    ofJson (nullable decode) json = (ofJson decode json).map some := by
  cases json with
  | null => exact absurd rfl h
  | _ => rfl

/-- The items of an array are read if each is, in order. -/
theorem items_ofItems {items : List Json} {values : List α} :
    Decoder.items decode (Source.ofItems items) = .ok values ↔
      List.Forall₂ (fun json value => ofJson decode json = .ok value) items values := by
  induction items generalizing values with
  | nil => simp [Source.ofItems, Decoder.items, eq_comm]
  | cons json rest ih =>
    rw [Source.ofItems, Decoder.items]
    constructor
    · intro h
      obtain ⟨value, hvalue, h⟩ := bind_eq_ok_iff.1 h
      obtain ⟨others, hothers, h⟩ := bind_eq_ok_iff.1 h
      cases h
      exact .cons hvalue (ih.1 hothers)
    · rintro (- | ⟨hvalue, hothers⟩)
      exact bind_eq_ok_iff.2 ⟨_, hvalue, bind_eq_ok_iff.2 ⟨_, ih.2 hothers, rfl⟩⟩

/-- An array is read as a list item by item. -/
theorem ofJson_list_array {items : List Json} {values : List α} :
    ofJson (list decode) (.array items) = .ok values ↔
      List.Forall₂ (fun json value => ofJson decode json = .ok value) items values := by
  rw [← items_ofItems, ofJson, Source.ofJson, list]
  cases Decoder.items decode (Source.ofItems items) <;> rfl

/-- The members of an object are read if each is, under its own name. -/
theorem entries_ofMembers {members : Members Json} {values : Members α} :
    entries decode (Source.ofMembers members) = .ok values ↔
      List.Forall₂ (fun member entry => member.1 = entry.1 ∧ ofJson decode member.2 = .ok entry.2)
        members values := by
  induction members generalizing values with
  | nil => simp [Source.ofMembers, entries, eq_comm]
  | cons member rest ih =>
    obtain ⟨name, json⟩ := member
    rw [Source.ofMembers, entries]
    constructor
    · intro h
      obtain ⟨_, hname, h⟩ := bind_eq_ok_iff.1 h
      cases hname
      obtain ⟨value, hvalue, h⟩ := bind_eq_ok_iff.1 h
      obtain ⟨others, hothers, h⟩ := bind_eq_ok_iff.1 h
      cases h
      exact .cons ⟨rfl, hvalue⟩ (ih.1 hothers)
    · rintro (- | ⟨⟨rfl, hvalue⟩, hothers⟩)
      exact bind_eq_ok_iff.2 ⟨_, rfl, bind_eq_ok_iff.2 ⟨_, hvalue,
        bind_eq_ok_iff.2 ⟨_, ih.2 hothers, rfl⟩⟩⟩

/-- An object is read as a map member by member; of a repeated name the last value counts. -/
theorem ofJson_map_object {members : Members Json} {values : Members α} :
    ofJson (map decode) (.object members) = .ok values ↔
      ∃ entries : Members α, List.Forall₂ (fun member entry =>
          member.1 = entry.1 ∧ ofJson decode member.2 = .ok entry.2) members entries ∧
        entries.collapse = values := by
  rw [ofJson, Source.ofJson, map, bind_eq_ok_iff]
  simp only [entries_ofMembers]
  refine exists_congr fun entries => and_congr_right fun _ => ?_
  exact Except.ok.injEq entries.collapse values ▸ Iff.rfl

end Decoder

/-! ## Fields -/

/-- What an object has for the fields of a record. -/
def Given.ofMembers (members : Members Json) : Given :=
  .byName (members.mapValues Source.ofJson)

/-- What an array has for the fields of a record. -/
def Given.ofItems (items : List Json) (expected : String) : Given :=
  .byPlace (items.map Source.ofJson) none expected

/-- By name, a field is found among the members. -/
theorem Given.find?_ofMembers (members : Members Json) (name : String) (place : Nat) :
    (ofMembers members).find? name place = (members.find? name).map Source.ofJson :=
  Members.find?_mapValues Source.ofJson members name

/-- By place, a field is found among the items, whatever its name is. -/
theorem Given.find?_ofItems (items : List Json) (expected : String) (name : String) (place : Nat) :
    (ofItems items expected).find? name place = items[place]?.map Source.ofJson :=
  List.getElem?_map

namespace Fields

/-! ## Lawful descriptions -/

/-- A description whose fields are read in the search for the first error as they are read
afterwards. -/
class Lawful (fields : Fields α) : Prop where
  check_of_build {members : List (String × Source)} {place : Nat} {value : α} :
    fields.build (.byName members) place = .ok value →
      ∀ {name : String} {check : Source → Except DecodeError Unit} {source : Source},
        fields.checks.lookup name = some check → Members.find? members name = some source →
          check source = .ok ()

instance {f : α → β} {fields : Fields α} [fields.Lawful] : (f <$> fields).Lawful where
  check_of_build h := by
    obtain ⟨x, hx, -⟩ := build_map_eq_ok_iff.1 h
    exact Lawful.check_of_build hx

instance {f : Fields (α → β)} {x : Fields α} [f.Lawful] [x.Lawful] : (f <*> x).Lawful where
  check_of_build {members place value} h {name check source} hcheck hfind := by
    obtain ⟨g, y, hg, hy, -⟩ := build_seq_eq_ok_iff.1 h
    have hlookup : (f.checks ++ x.checks).lookup name = some check := hcheck
    rw [List.lookup_append, Option.or_eq_some_iff] at hlookup
    rcases hlookup with hf | ⟨-, hx⟩
    · exact Lawful.check_of_build hg hf hfind
    · exact Lawful.check_of_build hy hx hfind

instance {name : String} {decode : Decoder α} {missing : Except DecodeError α}
    {missingItem : Option α} : (field name decode missing missingItem).Lawful where
  check_of_build {members place value} h {name' check source} hcheck hfind := by
    simp only [field, List.lookup_cons, List.lookup_nil] at hcheck
    split at hcheck
    · next hname =>
      obtain rfl := beq_iff_eq.1 hname
      obtain rfl := Option.some.inj hcheck
      simp only [field, Given.find?, hfind] at h
      simp [h, Except.map]
    · cases hcheck

instance {name : String} {decode : Decoder α} : (required name decode).Lawful :=
  inferInstanceAs (field ..).Lawful

instance {name : String} {default : α} {decode : Decoder α} :
    (optional name default decode).Lawful :=
  inferInstanceAs (field ..).Lawful

instance {name : String} {decode : Decoder α} : (nullable name decode).Lawful :=
  inferInstanceAs (optional ..).Lawful

instance {name : String} {decode : Decoder α} : (nullableMember name decode).Lawful :=
  inferInstanceAs (field ..).Lawful

/-! ## Single fields -/

section Single

variable {name : String} {decode : Decoder α} {members : Members Json} {items : List Json}
  {expected : String} {place : Nat}

/-- A field is read from the member under its name, if there is one. -/
theorem build_field_ofMembers {missing : Except DecodeError α} {missingItem : Option α} :
    (field name decode missing missingItem).build (.ofMembers members) place =
      match members.find? name with
      | some value => Decoder.ofJson decode value
      | none => missing := by
  simp only [field, Given.find?_ofMembers]
  cases members.find? name <;> rfl

@[simp] theorem build_required_ofMembers {value : α} :
    (required name decode).build (.ofMembers members) place = .ok value ↔
      ∃ json, members.find? name = some json ∧ Decoder.ofJson decode json = .ok value := by
  rw [required, build_field_ofMembers]
  cases members.find? name <;> simp

@[simp] theorem build_optional_ofMembers {default value : α} :
    (optional name default decode).build (.ofMembers members) place = .ok value ↔
      (members.find? name = none ∧ default = value) ∨
        ∃ json, members.find? name = some json ∧ Decoder.ofJson decode json = .ok value := by
  rw [optional, build_field_ofMembers]
  cases members.find? name <;> simp

/-- What is missing is read as null. -/
@[simp] theorem build_nullableMember_ofMembers :
    (nullableMember name decode).build (.ofMembers members) place =
      Decoder.ofJson (Decoder.nullable decode) (.orNull (members.find? name)) := by
  rw [nullableMember, build_field_ofMembers]
  cases members.find? name <;> rfl

/-- What is missing is read as null. -/
@[simp] theorem build_nullable_ofMembers :
    (nullable name decode).build (.ofMembers members) place =
      Decoder.ofJson (Decoder.nullable decode) (.orNull (members.find? name)) := by
  rw [nullable, optional, build_field_ofMembers]
  cases members.find? name <;> rfl

/-- From items a field is read at its place; a missing one is an error, save for a field that has a
value for that. -/
theorem build_field_ofItems {missing : Except DecodeError α} {missingItem : Option α} :
    (field name decode missing missingItem).build (.ofItems items expected) place =
      match items[place]? with
      | some value => Decoder.ofJson decode value
      | none =>
        match missingItem with
        | some value => .ok value
        | none => .error (.badLength place expected) := by
  simp only [field, Given.find?_ofItems]
  cases items[place]? <;> cases missingItem <;> rfl

/-- A field without a value when it is missing from an array. -/
theorem build_field_ofItems_eq_ok_iff {missing : Except DecodeError α} {value : α} :
    (field name decode missing none).build (.ofItems items expected) place = .ok value ↔
      ∃ json, items[place]? = some json ∧ Decoder.ofJson decode json = .ok value := by
  rw [build_field_ofItems]
  cases items[place]? <;> simp

end Single

/-! ## Objects -/

/-- Members whose names can be read. -/
def readable (members : Members Source) : List (Except TextError String × Source) :=
  members.map fun member => (.ok member.1, member.2)

/-- The names of a value can all be read. -/
theorem ofMembers_eq_readable (members : Members Json) :
    Source.ofMembers members = readable (members.mapValues Source.ofJson) := by
  rw [Source.ofMembers_eq, readable, Members.mapValues, List.map_map]
  rfl

theorem named_readable (members : Members Source) : named (readable members) = members := by
  simp [named, readable, List.filterMap_map]

/-- The names of the fields. -/
def known (fields : Fields α) : List String :=
  fields.checks.map Prod.fst

/-- A name is looked up in vain exactly if no field has it. -/
theorem lookup_eq_none_iff {fields : Fields α} {name : String} :
    fields.checks.lookup name = none ↔ name ∉ fields.known := by
  simp only [List.lookup_eq_none_iff, known, List.mem_map, not_exists, not_and, bne_iff_ne, ne_eq,
    @eq_comm _ name]

theorem mem_known_of_lookup {fields : Fields α} {name : String}
    {check : Source → Except DecodeError Unit} (h : fields.checks.lookup name = some check) :
    name ∈ fields.known := by
  refine Decidable.byContradiction fun hname => ?_
  rw [lookup_eq_none_iff.2 hname] at h
  cases h

section Search

variable {fields : Fields α} {other : Source → Except TextError Unit} {name : String}
  {source : Source} {seen : List String} {rest : List (Except TextError String × Source)}

/-- A member under the name of a field has to be the first one, and its value to be read. -/
theorem checkMembers_field_iff {check : Source → Except DecodeError Unit}
    (hlookup : fields.checks.lookup name = some check) :
    fields.checkMembers other seen ((.ok name, source) :: rest) = .ok () ↔
      name ∉ seen ∧ check source = .ok () ∧
        fields.checkMembers other (name :: seen) rest = .ok () := by
  rw [checkMembers, bind_eq_ok_iff]
  simp only [ofTextError, Except.ok.injEq, exists_eq_left', hlookup]
  by_cases hseen : name ∈ seen
  · simp [hseen]
  · cases check source <;> simp [hseen, bind, Except.bind]

/-- A member under another name is left to whatever is done with those. -/
theorem checkMembers_other_iff (hlookup : fields.checks.lookup name = none) :
    fields.checkMembers other seen ((.ok name, source) :: rest) = .ok () ↔
      other source = .ok () ∧ fields.checkMembers other seen rest = .ok () := by
  rw [checkMembers, bind_eq_ok_iff]
  simp only [ofTextError, Except.ok.injEq, exists_eq_left', hlookup]
  cases other source <;> simp [bind, Except.bind]

/-- The search for the first error finds none if no field is there twice, each field can be read,
and each other member is in order. -/
theorem checkMembers_iff {members : Members Source} :
    fields.checkMembers other seen (readable members) = .ok () ↔
      (members.under fields.known).names.Nodup ∧
      (∀ name ∈ seen, name ∉ (members.under fields.known).names) ∧
      (∀ member ∈ members, member.1 ∉ fields.known → other member.2 = .ok ()) ∧
      ∀ member ∈ members, ∀ check, fields.checks.lookup member.1 = some check →
        check member.2 = .ok () := by
  induction members generalizing seen with
  | nil => simp [readable, checkMembers, Members.under, Members.keepNames, Members.names]
  | cons member rest ih =>
    obtain ⟨name, source⟩ := member
    rw [readable, List.map_cons, ← readable, Members.under_cons]
    simp only [List.forall_mem_cons]
    cases hlookup : fields.checks.lookup name with
    | some check =>
      have hname := mem_known_of_lookup hlookup
      rw [checkMembers_field_iff hlookup, ih, if_pos hname, Members.names_cons, List.nodup_cons]
      simp only [List.forall_mem_cons, Option.some.injEq, forall_eq', hname]
      grind
    | none =>
      have hname := lookup_eq_none_iff.1 hlookup
      rw [checkMembers_other_iff hlookup, ih, if_neg hname]
      simp only [hname, not_false_eq_true, forall_const, reduceCtorEq, false_implies, true_and]
      grind

end Search

variable {fields : Fields α} [fields.Lawful]

/-- An object is read as a record if no field is there twice, each other member is in order, and the
fields can be put together. -/
theorem decodeMembers_iff {other : Source → Except TextError Unit} {members : Members Source}
    {value : α} : fields.decodeMembers other (readable members) none = .ok value ↔
      (members.under fields.known).names.Nodup ∧
      (∀ member ∈ members, member.1 ∉ fields.known → other member.2 = .ok ()) ∧
      fields.build (.byName members) 0 = .ok value := by
  rw [decodeMembers, bind_eq_ok_iff, named_readable]
  constructor
  · rintro ⟨_, hcheck, hbuild⟩
    obtain ⟨hnodup, -, hother, -⟩ := checkMembers_iff.1 hcheck
    exact ⟨hnodup, hother, hbuild⟩
  · rintro ⟨hnodup, hother, hbuild⟩
    -- The search looks at the members in their order, the fields are put together in theirs: what
    -- was put together was read from every member that is a field.
    refine ⟨(), checkMembers_iff.2 ⟨hnodup, List.forall_mem_nil _, hother,
      fun member hm check hlookup => ?_⟩, hbuild⟩
    have hname := mem_known_of_lookup hlookup
    refine Lawful.check_of_build hbuild hlookup ?_
    rw [← Members.find?_under members hname, Members.find?_eq_some_iff hnodup]
    exact Members.mem_under.2 ⟨hm, hname⟩

/-- Of an object of different names that is so if the fields can be put together. -/
theorem decodeMembers_readable {other : Source → Except TextError Unit} {members : Members Source}
    (hnodup : members.names.Nodup) (hother : ∀ member ∈ members, other member.2 = .ok ())
    {value : α} : fields.decodeMembers other (readable members) none = .ok value ↔
      fields.build (.byName members) 0 = .ok value := by
  have hunder : (members.under fields.known).names.Nodup :=
    hnodup.sublist (Members.names_keepNames_sublist _ members)
  rw [decodeMembers_iff]
  exact ⟨fun h => h.2.2, fun h => ⟨hunder, fun member hm _ => hother member hm, h⟩⟩

variable {members : Members Json}

/-- From members of different names a record is read if its fields are put together. -/
theorem decodeMembers_ofMembers {other : Source → Except TextError Unit}
    (hother : ∀ value, other (.ofJson value) = .ok ()) (hnodup : members.names.Nodup) {value : α} :
    fields.decodeMembers other (Source.ofMembers members) none = .ok value ↔
      fields.build (.ofMembers members) 0 = .ok value := by
  rw [ofMembers_eq_readable]
  refine decodeMembers_readable (by rwa [Members.names_mapValues]) fun member hm => ?_
  obtain ⟨given, -, rfl⟩ := List.mem_map.1 hm
  exact hother given.2

/-- A record is read from an object of different names by what is found under the names of its
fields. -/
theorem decode_object {name : String} (hnodup : members.names.Nodup) {value : α} :
    Decoder.ofJson (fields.decode name) (.object members) = .ok value ↔
      fields.build (.ofMembers members) 0 = .ok value :=
  decodeMembers_ofMembers Source.skip_ofJson hnodup

/-- A record that keeps the members it does not know is read with those, their names rising. -/
theorem decodeOpen_object {fields : Fields (List (String × Json) → α)} [fields.Lawful]
    {name : String} (hnodup : members.names.Nodup) {value : α} :
    Decoder.ofJson (fields.decodeOpen name) (.object members) = .ok value ↔
      ∃ make, fields.build (.ofMembers members) 0 = .ok make ∧
        make (((members.keepNames fun name => (fields.checks.lookup name).isNone).mapValues
          Json.canonical).sorted) = value := by
  have hother : ∀ value : Json, (Source.ofJson value).toJson.map (fun _ => ()) = .ok () := by
    intro value
    rw [Source.toJson_ofJson, Except.map]
  rw [Decoder.ofJson, Source.ofJson, decodeOpen, bind_eq_ok_iff]
  refine exists_congr fun make => ?_
  rw [decodeMembers_ofMembers hother hnodup]
  refine and_congr_right fun _ => ?_
  have hrest : Source.membersToJson (List.map (fun member => (.ok member.1, .ofJson member.2))
      (members.keepNames fun name => (fields.checks.lookup name).isNone)) =
        .ok ((members.keepNames fun name => (fields.checks.lookup name).isNone).mapValues
          Json.canonical) := by
    rw [← Source.ofMembers_eq, Source.membersToJson_ofMembers, Json.canonicalMembers_eq]
  simp only [Source.ofMembers_eq, List.filter_map, Function.comp_def]
  rw [Members.keepNames] at hrest ⊢
  rw [hrest]
  simp [ofTextError, bind, Except.bind, pure, Except.pure]

/-! ## Arrays -/

/-- A record is read from an array by the places of its fields, and no item may be left. -/
theorem decode_array {fields : Fields α} {name : String} {items : List Json} {value : α} :
    Decoder.ofJson (fields.decode name) (.array items) = .ok value ↔
      items.length ≤ fields.checks.length ∧
        fields.build (.ofItems items ("struct " ++ name ++ " with " ++
          elements fields.checks.length)) 0 = .ok value := by
  rw [Decoder.ofJson, Source.ofJson, decode, decodeItems, bind_eq_ok_iff, Source.ofItems_eq,
    List.length_map]
  by_cases hlong : fields.checks.length < items.length
  · simp [hlong, Nat.not_le.2 hlong]
  · simp [hlong, Nat.not_lt.1 hlong, Given.ofItems, endOfArray, ofTextError, bind, Except.bind,
      pure, Except.pure]

end Fields

/-! ## Unions -/

/-- The source can be read as a value. -/
def Source.IsReadable (source : Source) : Prop :=
  ∃ json, source.toJson = .ok json

/-- Nothing is wrong in the source of a value. -/
theorem Source.isReadable_ofJson (value : Json) : (ofJson value).IsReadable :=
  ⟨value.canonical, toJson_ofJson value⟩

namespace Union

variable {union : Union α}

/-- The tag that tells a variant can be read, and the variant is one of the union. -/
theorem of_variant_eq_ok {tag : Source} {variant : Variant α}
    (h : union.variant tag = .ok variant) : tag.IsReadable ∧ variant ∈ union.variants := by
  unfold Union.variant at h
  split at h
  · next s =>
    obtain ⟨text, htext, h⟩ := bind_eq_ok_iff.1 h
    refine ⟨⟨.string text, by rw [Source.toJson, ofTextError_eq_ok_iff.1 htext]; rfl⟩, ?_⟩
    split at h
    · next found hfound =>
      obtain rfl := Except.ok.inj h
      exact List.mem_of_find?_eq_some hfound
    · cases h
  · next n =>
    refine ⟨⟨.number (.integer n), rfl⟩, ?_⟩
    split at h
    · next found hfound =>
      obtain rfl := Except.ok.inj h
      split at hfound
      · exact List.mem_of_getElem? hfound
      · cases hfound
    · cases h
  · cases h

section Scan

variable {members : Members Source} {variant : Variant α}

theorem scanMembers_tag_none {source : Source} {rest : List (Except TextError String × Source)} :
    union.scanMembers none ((.ok tagName, source) :: rest) = .ok (some variant) ↔
      ∃ first, union.variant source = .ok first ∧
        union.scanMembers (some first) rest = .ok (some variant) := by
  rw [scanMembers, bind_eq_ok_iff]
  simp [ofTextError, bind_eq_ok_iff]

/-- A second tag is an error. -/
theorem scanMembers_tag_some {source : Source} {first : Variant α}
    {rest : List (Except TextError String × Source)} :
    union.scanMembers (some first) ((.ok tagName, source) :: rest) ≠ .ok (some variant) := by
  simp [scanMembers, ofTextError, bind, Except.bind]

/-- Any member but the tag has to be readable. -/
theorem scanMembers_other {found : Option (Variant α)} {name : String} {source : Source}
    {rest : List (Except TextError String × Source)} (h : name ≠ tagName) :
    union.scanMembers found ((.ok name, source) :: rest) = .ok (some variant) ↔
      source.IsReadable ∧ union.scanMembers found rest = .ok (some variant) := by
  rw [scanMembers, bind_eq_ok_iff]
  simp only [ofTextError, Except.ok.injEq, exists_eq_left', if_neg h, Source.IsReadable]
  cases source.toJson <;> simp [bind, Except.bind]

/-- The kind is found if there is one tag that tells it, and every other member can be read. -/
theorem scanMembers_iff {found : Option (Variant α)} :
    union.scanMembers found (Fields.readable members) = .ok (some variant) ↔
      (∀ member ∈ members, member.1 ≠ tagName → member.2.IsReadable) ∧
      match found with
      | none => ∃ tag, members.under [tagName] = [(tagName, tag)] ∧ union.variant tag = .ok variant
      | some first => members.under [tagName] = [] ∧ first = variant := by
  induction members generalizing found with
  | nil => cases found <;> simp [Fields.readable, scanMembers, Members.under, Members.keepNames]
  | cons member rest ih =>
    obtain ⟨name, source⟩ := member
    rw [Fields.readable, List.map_cons, ← Fields.readable, Members.under_cons]
    simp only [List.forall_mem_cons]
    by_cases hname : name = tagName
    · subst hname
      cases found with
      | none =>
        rw [scanMembers_tag_none]
        simp [ih]
        grind
      | some first => simp [scanMembers_tag_some]
    · rw [scanMembers_other hname, ih]
      simp [hname, and_assoc]

/-- A value of a union is read exactly if all members but the tag can be read, there is one tag, and
its variant is read from the other members. -/
theorem decode_iff {value : α} :
    union.decode (.object (Fields.readable members) none) = .ok value ↔
      (∀ member ∈ members, member.1 ≠ tagName → member.2.IsReadable) ∧
      ∃ tag variant, members.under [tagName] = [(tagName, tag)] ∧ union.variant tag = .ok variant ∧
        variant.fields.decodeMembers Source.skip
          (Fields.readable (members.keepNames (· != tagName))) none = .ok value := by
  have huntagged : untagged (Fields.readable members) =
      Fields.readable (members.keepNames (· != tagName)) := by
    simp [untagged, Fields.readable, Members.keepNames, List.filter_map, Function.comp_def]
  rw [decode, bind_eq_ok_iff]
  simp only [Source.endOf, ofTextError, huntagged]
  constructor
  · rintro ⟨found, hscan, h⟩
    cases found with
    | none => cases h
    | some variant =>
      obtain ⟨hreadable, tag, htag, hvariant⟩ := scanMembers_iff.1 hscan
      exact ⟨hreadable, tag, variant, htag, hvariant, h⟩
  · rintro ⟨hreadable, tag, variant, htag, hvariant, h⟩
    exact ⟨some variant, scanMembers_iff.2 ⟨hreadable, tag, htag, hvariant⟩, h⟩

end Scan

variable {members : Members Json}

/-- The kind that a value tells as a tag. -/
def taggedVariant? (union : Union α) : Json → Option (Variant α)
  | .string tag => union.variants.find? fun variant => variant.tag == tag
  | .number (.integer n) => if union.byNumber ∧ 0 ≤ n then union.variants[n.toNat]? else none
  | _ => none

theorem toOption_variant (tag : Json) :
    (union.variant (.ofJson tag)).toOption = union.taggedVariant? tag := by
  cases tag with
  | string s =>
    simp only [Source.ofJson, variant, ofTextError, taggedVariant?, bind, Except.bind]
    cases union.variants.find? fun variant => variant.tag == s <;> rfl
  | number n =>
    cases n with
    | integer n =>
      simp only [Source.ofJson, variant, taggedVariant?]
      split
      · next h => rw [h]; rfl
      · next h => rw [h]; rfl
    | real x => rfl
  | null | bool b | array items | object members => rfl

/-- The tag of a value tells its variant by name or by number. -/
theorem variant_eq_ok_iff {tag : Json} {variant : Variant α} :
    union.variant (.ofJson tag) = .ok variant ↔ union.taggedVariant? tag = some variant := by
  rw [← toOption_variant]
  cases union.variant (.ofJson tag) <;> simp [Except.toOption]

theorem mem_of_taggedVariant? {tag : Json} {variant : Variant α}
    (h : union.taggedVariant? tag = some variant) : variant ∈ union.variants := by
  unfold taggedVariant? at h
  split at h
  · exact List.mem_of_find?_eq_some h
  · split at h
    · exact List.mem_of_getElem? h
    · cases h
  · cases h

/-- An object of different names is read as a value of the kind that its tag tells, if the fields of
that kind can be put together from the other members. -/
theorem decode_object (hlawful : ∀ variant ∈ union.variants, variant.fields.Lawful)
    (hnodup : members.names.Nodup) {value : α} :
    Decoder.ofJson union.decode (.object members) = .ok value ↔
      ∃ variant, (members.find? tagName).bind union.taggedVariant? = some variant ∧
        variant.fields.build (.ofMembers (members.keepNames (· != tagName))) 0 = .ok value := by
  have hkept : (members.keepNames (· != tagName)).names.Nodup :=
    hnodup.sublist (Members.names_keepNames_sublist _ members)
  have hgiven : (members.mapValues Source.ofJson).names.Nodup := by rwa [Members.names_mapValues]
  have hread : ∀ member ∈ members.mapValues Source.ofJson, member.1 ≠ tagName →
      member.2.IsReadable := by
    intro member hm _
    obtain ⟨given, -, rfl⟩ := List.mem_map.1 hm
    exact Source.isReadable_ofJson given.2
  have hbuild : ∀ variant ∈ union.variants,
      (variant.fields.decodeMembers Source.skip (Fields.readable
          ((members.mapValues Source.ofJson).keepNames (· != tagName))) none = .ok value ↔
        variant.fields.build (.ofMembers (members.keepNames (· != tagName))) 0 = .ok value) := by
    intro variant hvariant
    have := hlawful variant hvariant
    rw [Members.keepNames_mapValues, ← Fields.ofMembers_eq_readable]
    exact Fields.decodeMembers_ofMembers Source.skip_ofJson hkept
  rw [Decoder.ofJson, Source.ofJson, Fields.ofMembers_eq_readable, decode_iff, and_iff_right hread]
  simp only [Members.under_singleton_iff hgiven, Members.find?_mapValues]
  cases members.find? tagName with
  | none => simp
  | some tag =>
    simp only [Option.map_some, Option.some.injEq, exists_and_left, exists_eq_left',
      Option.bind_some, variant_eq_ok_iff]
    exact exists_congr fun variant => and_congr_right fun hvariant =>
      hbuild variant (mem_of_taggedVariant? hvariant)

/-- An array is read as a value of the kind that its first item tells, if the fields of that kind
can be put together from the other items. -/
theorem decode_array {items : List Json} {value : α} :
    Decoder.ofJson union.decode (.array items) = .ok value ↔
      ∃ tag rest variant, items = tag :: rest ∧ union.taggedVariant? tag = some variant ∧
        union.decodeItems variant (rest.map Source.ofJson) = .ok value := by
  rw [Decoder.ofJson, Source.ofJson]
  cases items with
  | nil => simp [Source.ofItems, decode, bind, Except.bind, ofTextError, Source.endOf]
  | cons tag rest =>
    have hitems : Source.itemsToJson (rest.map Source.ofJson) = .ok (Json.canonicalItems rest) := by
      rw [← Source.ofItems_eq, Source.itemsToJson_ofItems]
    rw [Source.ofItems, decode, bind_eq_ok_iff, Source.ofItems_eq, hitems]
    simp [bind, Except.bind, ofTextError, Source.endOf, and_assoc, variant_eq_ok_iff]

end Union

end NotionProject
