import NotionProject.Endpoint
import NotionProject.Proofs.RoundTrip
import NotionProject.Proofs.TextForm

/-!
# Members that are not known

A record is read from the members under the names of its fields (`Fields.decodeMembers_of_agree`), a
value of a union from its tag and from the fields of its variant (`Union.decode_of_agree`). Where
else an object agrees with one that was read does not matter: in what order the members stand, and
which other members there are (`Members.Agree`).

A record passes over the members that it does not know. A union, and the trial whether the value of
a property is typed, read them as values first. From a text they can fail to be read, if there is a
number out of range in them, a string that is not Unicode text, or too deep a nesting
(`Parent.minds_depth`); from a value they cannot. `Decoder.Tolerates` says both, and
`Decoder.tolerates_others` that it holds of everything the API answers with.
-/

namespace NotionProject

variable {α β : Type}

/-! ## Fields by their names -/

namespace Fields

/-- A description whose fields are put together from what is under their names alone. -/
class Local (fields : Fields α) : Prop where
  build_congr {members members' : Members Source} {place : Nat} :
    (∀ name ∈ fields.known, members.find? name = members'.find? name) →
      fields.build (.byName members) place = fields.build (.byName members') place

instance {f : α → β} {fields : Fields α} [fields.Local] : (f <$> fields).Local where
  build_congr h := congrArg (Except.map f) (Local.build_congr h)

/-- Fields that are put together have the names of both. -/
theorem known_seq (f : Fields (α → β)) (x : Fields α) : (f <*> x).known = f.known ++ x.known :=
  List.map_append

instance {f : Fields (α → β)} {x : Fields α} [f.Local] [x.Local] : (f <*> x).Local where
  build_congr {members members' place} h := by
    rw [known_seq, List.forall_mem_append] at h
    change (f.build _ place >>= fun g => x.build _ (place + f.checks.length) >>= fun y =>
      pure (g y)) = _
    rw [Local.build_congr h.1, Local.build_congr h.2]
    rfl

instance {name : String} {decode : Decoder α} {missing : Except DecodeError α}
    {missingItem : Option α} : (field name decode missing missingItem).Local where
  build_congr {members members' place} h := by
    have hfind := h name List.mem_cons_self
    simp only [field, Given.find?, hfind]

instance {name : String} {decode : Decoder α} : (required name decode).Local :=
  inferInstanceAs (field ..).Local

instance {name : String} {default : α} {decode : Decoder α} :
    (optional name default decode).Local :=
  inferInstanceAs (field ..).Local

instance {name : String} {decode : Decoder α} : (nullable name decode).Local :=
  inferInstanceAs (optional ..).Local

instance {name : String} {decode : Decoder α} : (nullableMember name decode).Local :=
  inferInstanceAs (field ..).Local

end Fields

/-! ## The same members -/

namespace Members

variable {own less : List String} {first second : Members α}

/-- Under some names there are the same members, in any order. -/
def Agree (own : List String) (first second : Members α) : Prop :=
  (first.under own).Perm (second.under own)

/-- Members that agree under some names agree under fewer. -/
theorem Agree.mono (h : Agree own first second) (hless : ∀ name ∈ less, name ∈ own) :
    Agree less first second := by
  have hunder : ∀ members : Members α, members.under less = (members.under own).under less := by
    intro members
    rw [under, under, under, keepNames, keepNames, keepNames, List.filter_filter]
    refine List.filter_congr fun member _ => ?_
    by_cases hm : member.1 ∈ less
    · simp [hm, hless member.1 hm]
    · simp [hm]
  rw [Agree, hunder first, hunder second]
  exact List.Perm.filter _ h

/-- If the same names are left out of both, they still agree. -/
theorem Agree.keepNames (h : Agree own first second) (keep : String → Bool) :
    Agree own (first.keepNames keep) (second.keepNames keep) := by
  have hunder : ∀ members : Members α,
      (members.keepNames keep).under own = (members.under own).keepNames keep := by
    intro members
    rw [under, under, Members.keepNames, Members.keepNames, List.filter_filter, Members.keepNames,
      Members.keepNames, List.filter_filter]
    exact List.filter_congr fun member _ => Bool.and_comm _ _
  rw [Agree, hunder first, hunder second]
  exact List.Perm.filter _ h

/-- If the values of both are changed alike, they still agree. -/
theorem Agree.mapValues (h : Agree own first second) (f : α → β) :
    Agree own (first.mapValues f) (second.mapValues f) := by
  rw [Agree, under, under, keepNames_mapValues, keepNames_mapValues]
  exact List.Perm.map _ h

/-- A name that is not there twice in one is not there twice in the other. -/
theorem Agree.nodup (h : Agree own first second) (hnodup : (first.under own).names.Nodup) :
    (second.under own).names.Nodup :=
  (List.Perm.map Prod.fst h).nodup_iff.1 hnodup

/-- If no name is there twice, the same is found. -/
theorem Agree.find?_eq (h : Agree own first second) (hnodup : (first.under own).names.Nodup) :
    ∀ name ∈ own, first.find? name = second.find? name := by
  intro name hname
  rw [← find?_under first hname, ← find?_under second hname]
  refine Option.ext fun value => ?_
  rw [find?_eq_some_iff hnodup, find?_eq_some_iff (h.nodup hnodup)]
  exact List.Perm.mem_iff h

end Members

open Members

/-! ## Records -/

instance : Page.fields.Local := by
  unfold Page.fields
  infer_instance

instance : Block.fields.Local := by
  unfold Block.fields
  infer_instance

instance : Database.fields.Local := by
  unfold Database.fields
  infer_instance

instance {decode : Decoder α} : (Listing.fields decode).Local := by
  unfold Listing.fields
  infer_instance

namespace Fields

variable {fields : Fields α} [fields.Lawful] [fields.Local] {old new : Members Source} {value : α}

/-- A record is read from the members under the names of its fields. -/
theorem decodeMembers_of_agree {other : Source → Except TextError Unit}
    (hagree : Agree fields.known old new)
    (hother : ∀ member ∈ new, member.1 ∉ fields.known → other member.2 = .ok ())
    (h : fields.decodeMembers other (readable old) none = .ok value) :
    fields.decodeMembers other (readable new) none = .ok value := by
  obtain ⟨hnodup, -, hbuild⟩ := decodeMembers_iff.1 h
  refine decodeMembers_iff.2 ⟨hagree.nodup hnodup, hother, ?_⟩
  rwa [← Local.build_congr (hagree.find?_eq hnodup)]

end Fields

/-! ## Unions -/

/-- The fields of the variant are read by their names, which the values of the variant tell. -/
structure Variant.Tells (own : α → List String) (variant : Variant α) : Prop where
  isLawful : variant.fields.Lawful
  isLocal : variant.fields.Local
  known_eq {given : Given} {place : Nat} {value : α} :
    variant.fields.build given place = .ok value → variant.fields.known = own value

/-- A variant is read by its names if what is made of its fields tells them. -/
theorem Variant.tells_map {own : α → List String} {tag label : String} {make : β → α}
    {fields : Fields β} [fields.Lawful] [fields.Local] (h : ∀ x, fields.known = own (make x)) :
    Variant.Tells own ⟨tag, label, make <$> fields⟩ where
  isLawful := inferInstanceAs (make <$> fields).Lawful
  isLocal := inferInstanceAs (make <$> fields).Local
  known_eq hbuild := by
    obtain ⟨x, -, rfl⟩ := Fields.build_map_eq_ok_iff.1 hbuild
    exact h x

namespace Union

variable {union : Union α} {own : α → List String} {value : α}

/-- All of an object that is read as a value of a union can be read. -/
theorem isReadable_of_decode {members : Members Source}
    (h : union.decode (.object (Fields.readable members) none) = .ok value) :
    ∀ member ∈ members, member.2.IsReadable := by
  obtain ⟨hreadable, tag, variant, htag, hvariant, -⟩ := decode_iff.1 h
  intro member hm
  by_cases hname : member.1 = tagName
  · have htagged : member ∈ members.under [tagName] := mem_under.2 ⟨hm, by simp [hname]⟩
    rw [htag, List.mem_singleton] at htagged
    exact htagged ▸ (of_variant_eq_ok hvariant).1
  · exact hreadable member hm hname

/-- A value of a union is read from the tag and from the members under its own names, if all other
members can be read. -/
theorem decode_of_agree (hvariants : ∀ variant ∈ union.variants, variant.Tells own)
    {old new : Members Source} (hagree : Agree (tagName :: own value) old new)
    (hskip : ∀ member ∈ new, member.2.skip = .ok ())
    (h : union.decode (.object (Fields.readable old) none) = .ok value) :
    union.decode (.object (Fields.readable new) none) = .ok value ↔
      ∀ member ∈ new, member.1 ∉ tagName :: own value → member.2.IsReadable := by
  constructor
  · exact fun hnew member hm _ => isReadable_of_decode hnew member hm
  · intro hothers
    obtain ⟨-, tag, variant, htag, hvariant, hvalue⟩ := decode_iff.1 h
    obtain ⟨_, _, hknown⟩ := hvariants variant (of_variant_eq_ok hvariant).2
    have hnames : variant.fields.known = own value :=
      hknown (Fields.decodeMembers_iff.1 hvalue).2.2
    have htagged : Agree [tagName] old new := hagree.mono (by simp)
    rw [Agree, htag] at htagged
    refine decode_iff.2 ⟨fun member hm _ => ?_, tag, variant,
      (List.singleton_perm.1 htagged).symm, hvariant, ?_⟩
    · by_cases hname : member.1 ∈ tagName :: own value
      · have hold : member ∈ old.under (tagName :: own value) :=
          (List.Perm.mem_iff hagree).2 (mem_under.2 ⟨hm, hname⟩)
        exact isReadable_of_decode h member (mem_under.1 hold).1
      · exact hothers member hm hname
    · refine Fields.decodeMembers_of_agree ?_ (fun member hm _ => ?_) hvalue
      · rw [hnames]
        exact (hagree.mono fun name hn => List.mem_cons_of_mem _ hn).keepNames _
      · exact hskip member (List.mem_of_mem_filter hm)

end Union

/-! ## Kinds of values -/

/-- The name of the member that says where the parent is. -/
def Parent.member : Parent → String
  | page _ => "page_id"
  | database _ => "database_id"
  | block _ => "block_id"
  | workspace _ => "workspace"

/-- Beside the tag, a parent is told by one member. -/
theorem Parent.tells_variants :
    ∀ variant ∈ union.variants, variant.Tells fun parent => [parent.member] := by
  simp only [union, List.forall_mem_cons]
  exact ⟨Variant.tells_map fun _ => rfl, Variant.tells_map fun _ => rfl,
    Variant.tells_map fun _ => rfl, Variant.tells_map fun _ => rfl, List.forall_mem_nil _⟩

namespace TypedProperty

/-- The payload of a kind stands under the name of the kind. -/
theorem tells_payload {decode : Decoder α} {name : String} {make : α → TypedProperty}
    (h : ∀ x, (make x).marker = name) :
    (payload name make decode).Tells fun known => [known.marker] :=
  Variant.tells_map fun x => congrArg (fun marker => [marker]) (h x).symm

theorem tells_payload? {decode : Decoder α} {name : String} {make : Option α → TypedProperty}
    (h : ∀ x, (make x).marker = name) :
    (payload? name make decode).Tells fun known => [known.marker] :=
  Variant.tells_map fun x => congrArg (fun marker => [marker]) (h x).symm

/-- Beside the tag, a typed value is told by its payload. -/
theorem tells_variants :
    ∀ variant ∈ union.variants, variant.Tells fun known => [known.marker] := by
  simp only [union, List.forall_mem_cons]
  exact ⟨tells_payload fun _ => rfl, tells_payload fun _ => rfl, tells_payload? fun _ => rfl,
    tells_payload? fun _ => rfl, tells_payload fun _ => rfl, tells_payload? fun _ => rfl,
    tells_payload fun _ => rfl, tells_payload? fun _ => rfl, tells_payload? fun _ => rfl,
    tells_payload? fun _ => rfl, tells_payload? fun _ => rfl, tells_payload fun _ => rfl,
    List.forall_mem_nil _⟩

end TypedProperty

/-- An object is read as a typed value if the trial comes to that. -/
theorem PropertyValue.decode_typed_iff {members : Members Source} {known : TypedProperty} :
    decode (.object (Fields.readable members) none) = .ok (typed known) ↔
      TypedProperty.union.decode (.object (Fields.readable members) none) = .ok known := by
  rw [decode, bind_eq_ok_iff]
  constructor
  · rintro ⟨value, -, h⟩
    cases hknown : TypedProperty.union.decode (.object (Fields.readable members) none) with
    | ok known' =>
      rw [hknown] at h
      cases h
      rfl
    | error error =>
      rw [hknown] at h
      cases h
  · intro h
    obtain ⟨values, hvalues⟩ :=
      Source.exists_membersToJson_readable_iff.2 (Union.isReadable_of_decode h)
    refine ⟨.object (sorted values), ?_, by rw [h]; rfl⟩
    rw [Decoder.json, Source.toJson, hvalues]
    rfl

/-! ## Texts -/

/-- The text is one of an object with these members: it is well-formed, and its names can be
read. -/
structure Source.IsObjectText (text : String) (members : Members Source) : Prop where
  ofText_eq : ofText text = (.object (Fields.readable members) none, false)
  skip_eq : ∀ member ∈ members, member.2.skip = .ok ()

/-- What is written of an object is such a text. -/
theorem Source.isObjectText_compact (members : Members Json) :
    IsObjectText (Json.object members).compact (members.mapValues (written 1)) where
  ofText_eq := by rw [ofText_compact, written_object]
  skip_eq member hm := by
    obtain ⟨given, -, rfl⟩ := List.mem_map.1 hm
    exact skip_written 1 given.2

namespace Decoder

variable {decode : Decoder α}

/-- Of the text of an object a decoder is given the members. -/
theorem ofText_of_isObjectText {text : String} {members : Members Source}
    (h : Source.IsObjectText text members) :
    ofText decode text = decode (.object (Fields.readable members) none) := by
  rw [ofText, h.ofText_eq]
  dsimp only
  cases decode (.object (Fields.readable members) none) <;> rfl

/-! ## Tolerance -/

/-- Every object that agrees in the value's own members with one that is read as the value is read
as the value: an object given by its text exactly if each other member is one that the decoder
admits, an object given as a value whatever else it has. -/
structure Tolerates (decode : Decoder α) (value : α) (own : List String) (admits : Source → Prop) :
    Prop where
  of_text {old new : String} {members members' : Members Source} :
    Source.IsObjectText old members → Source.IsObjectText new members' →
      Agree own members members' → ofText decode old = .ok value →
        (ofText decode new = .ok value ↔ ∀ member ∈ members', member.1 ∉ own → admits member.2)
  of_json {members members' : Members Json} :
    Agree own members members' → ofJson decode (.object members) = .ok value →
      ofJson decode (.object members') = .ok value

/-- It is enough to know the members; those of a value can all be passed over and are admitted. -/
theorem Tolerates.of_members {value : α} {own : List String} {admits : Source → Prop}
    (hadmits : ∀ json, admits (.ofJson json))
    (h : ∀ {old new : Members Source}, Agree own old new →
      (∀ member ∈ new, member.2.skip = .ok ()) →
      decode (.object (Fields.readable old) none) = .ok value →
        (decode (.object (Fields.readable new) none) = .ok value ↔
          ∀ member ∈ new, member.1 ∉ own → admits member.2)) :
    decode.Tolerates value own admits where
  of_text hold hnew hagree hvalue := by
    rw [ofText_of_isObjectText hold] at hvalue
    rw [ofText_of_isObjectText hnew]
    exact h hagree hnew.skip_eq hvalue
  of_json {members members'} hagree hvalue := by
    rw [ofJson, Source.ofJson, Fields.ofMembers_eq_readable] at hvalue ⊢
    refine (h (hagree.mapValues Source.ofJson) (fun member hm => ?_) hvalue).2 fun member hm _ => ?_
    · obtain ⟨given, -, rfl⟩ := List.mem_map.1 hm
      exact Source.skip_ofJson given.2
    · obtain ⟨given, -, rfl⟩ := List.mem_map.1 hm
      exact hadmits given.2

/-- A record passes over every other member, whatever it is. -/
theorem tolerates_fields (fields : Fields α) [fields.Lawful] [fields.Local] (name : String)
    (value : α) : (fields.decode name).Tolerates value fields.known fun _ => True :=
  .of_members (fun _ => trivial) fun hagree hskip h =>
    iff_of_true (Fields.decodeMembers_of_agree hagree (fun member hm _ => hskip member hm) h)
      fun _ _ _ => trivial

/-- A union reads every other member as a value before it knows the variant. -/
theorem tolerates_union {union : Union α} {own : α → List String}
    (h : ∀ variant ∈ union.variants, variant.Tells own) (value : α) :
    Tolerates union.decode value (Union.tagName :: own value) Source.IsReadable :=
  .of_members Source.isReadable_ofJson fun hagree hskip => Union.decode_of_agree h hagree hskip

/-- The trial whether a value is typed is a union; if it succeeds, the value is not looked at again.
-/
theorem tolerates_typed (known : TypedProperty) :
    PropertyValue.decode.Tolerates (.typed known) [Union.tagName, known.marker] Source.IsReadable :=
  .of_members Source.isReadable_ofJson fun hagree hskip h => by
    rw [PropertyValue.decode_typed_iff] at h ⊢
    exact Union.decode_of_agree TypedProperty.tells_variants hagree hskip h

/-- What the API answers with is read from its own members alone, in whatever order they stand and
whatever other members there are. A record passes over the others. Beside the tag and the member of
its kind, a parent or the typed value of a property reads the others as values, so those of a text
have to be readable. -/
theorem tolerates_others :
    (∀ page, Page.decode.Tolerates page
      ["id", "parent", "properties", "archived", "url", "created_time", "last_edited_time"]
      fun _ => True) ∧
    (∀ block, Block.decode.Tolerates block ["id", "type", "child_page", "child_database"]
      fun _ => True) ∧
    (∀ database, Database.decode.Tolerates database
      ["id", "title", "parent", "properties", "archived", "url"] fun _ => True) ∧
    (∀ listing, (Listing.decode Block.decode).Tolerates listing
      ["object", "results", "next_cursor", "has_more"] fun _ => True) ∧
    (∀ listing, (Listing.decode Page.decode).Tolerates listing
      ["object", "results", "next_cursor", "has_more"] fun _ => True) ∧
    (∀ parent, Parent.decode.Tolerates parent ["type", parent.member] Source.IsReadable) ∧
    ∀ known, PropertyValue.decode.Tolerates (.typed known) ["type", known.marker]
      Source.IsReadable :=
  ⟨tolerates_fields Page.fields "Page", tolerates_fields Block.fields "ChildBlock",
    tolerates_fields Database.fields "Database", tolerates_fields (Listing.fields _) _,
    tolerates_fields (Listing.fields _) _, tolerates_union Parent.tells_variants, tolerates_typed⟩

end Decoder

/-- The members of a workspace, as a parent. -/
def Parent.workspaceMembers : Members Json :=
  [("type", .string "workspace"), ("workspace", .bool true)]

theorem Parent.ofText_workspaceMembers :
    Decoder.ofText decode (Json.object workspaceMembers).compact = .ok (workspace true) := by
  rw [Decoder.ofText_compact]
  rfl

/-- The members of a workspace in the other order, behind one that is not known. -/
theorem tolerates_others_sample :
    Decoder.ofText Parent.decode
      (Json.object (("note", .array []) :: Parent.workspaceMembers.reverse)).compact =
        .ok (.workspace true) := by
  have hagree : Agree ["type", (Parent.workspace true).member]
      (Parent.workspaceMembers.mapValues (Source.written 1))
      (mapValues (Source.written 1) (("note", .array []) :: Parent.workspaceMembers.reverse)) :=
    .swap _ _ _
  refine ((Decoder.tolerates_others.2.2.2.2.2.1 (.workspace true)).of_text
    (Source.isObjectText_compact _) (Source.isObjectText_compact _) hagree
    Parent.ofText_workspaceMembers).2 ?_
  simp only [Parent.workspaceMembers, List.reverse_cons, List.reverse_nil, List.nil_append,
    List.cons_append, mapValues_cons, mapValues_nil, List.forall_mem_cons]
  exact ⟨fun _ => ⟨.array [], rfl⟩, fun _ => ⟨.bool true, rfl⟩, fun _ => ⟨.string "workspace", rfl⟩,
    List.forall_mem_nil _⟩

/-! ## Members that cannot be read -/

/-- An empty array within a number of others. -/
def Json.nestedArrays : Nat → Json
  | 0 => array []
  | n + 1 => array [nestedArrays n]

/-- Arrays within each other cannot be read from the depth on at which the reader stops. -/
theorem Source.toJson_written_nestedArrays {depth n : Nat} (h : depthLimit ≤ depth + n) :
    (written depth (.nestedArrays n)).toJson = .error .tooDeep := by
  induction n generalizing depth with
  | zero => rw [Json.nestedArrays, written, nested, if_neg (by omega), toJson]
  | succ n ih =>
    rw [Json.nestedArrays, written, nested]
    split
    · rw [toJson, writtenItems, itemsToJson, ih (by omega)]
      rfl
    · rw [toJson]

/-- A parent is not read if a member that it does not know is nested too deeply. -/
theorem Parent.minds_depth :
    ∃ note : Json, Agree ["type", (workspace true).member] workspaceMembers
        (workspaceMembers ++ [("note", note)]) ∧
      Decoder.ofText decode (Json.object workspaceMembers).compact = .ok (workspace true) ∧
      Decoder.ofText decode (Json.object (workspaceMembers ++ [("note", note)])).compact =
        .error (.text .tooDeep) := by
  have hnote : (Source.written 1 (.nestedArrays 126)).toJson = .error .tooDeep :=
    Source.toJson_written_nestedArrays (by decide)
  refine ⟨.nestedArrays 126, .refl _, ofText_workspaceMembers, ?_⟩
  rw [Decoder.ofText_compact, Source.written_object]
  simp only [workspaceMembers, List.cons_append, List.nil_append, mapValues_cons, mapValues_nil,
    Fields.readable, List.map_cons, List.map_nil, decode, Union.decode, Union.scanMembers, hnote]
  rfl

end NotionProject
