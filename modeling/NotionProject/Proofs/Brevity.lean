import NotionProject.Endpoint
import NotionProject.Proofs.Classification
import NotionProject.Proofs.Extent
import NotionProject.Proofs.TextForm
import NotionProject.Proofs.Wording
import Mathlib.Order.Filter.AtTopBot.Basic
import Mathlib.Order.Filter.Finite

/-!
# How long the report of a malformed answer is

An answer of success whose text is not read is reported with the decoder's error and with the
beginning of the text. A decoder is limited (`Decoder.Limited`) if its errors hold no more of a text
than there is in it, and beside that only what the decoder itself expects; that passes from fields
to records and unions and from the parts to lists and maps, so it is inferred for everything the API
answers with. From every bound on this is so, which is said with the filter `atTop`: bounds that are
each large enough for one part are then large enough for all.

So the report has a bound which is the same for all texts, but for what the error takes from the
text (`Answer.exists_isReportedWithin`). That is much if the error quotes a string, which it shows
as a whole; so there is no bound for all texts (`Answer.not_bounded`). The error's own wording is
the one without the line and the column (`DecodeError.message`), two numbers of which the report
would have more.
-/

namespace NotionProject

open Filter (atTop eventually_ge_atTop)

variable {α β : Type}

namespace DecodeError

variable {bound n : Nat} {error : DecodeError} {source : Source}

/-- Every error that can come of it holds no more of a text than one of so many characters holds. -/
def IsBrief (bound n : Nat) (read : Except DecodeError α) : Prop :=
  ∀ error, read = .error error → error.Within bound n

theorem isBrief_ok (value : α) : IsBrief bound n (.ok value : Except DecodeError α) := by
  rintro error ⟨⟩

theorem isBrief_error (h : error.Within bound n) :
    IsBrief bound n (.error error : Except DecodeError α) := by
  rintro _ ⟨⟩
  exact h

/-- What is wrong with the text itself is told without the text. -/
theorem isBrief_ofTextError (read : Except TextError α) : IsBrief bound n (ofTextError read) := by
  cases read with
  | ok value => exact isBrief_ok value
  | error error => exact isBrief_error trivial

/-- Of two readings in a row, the error is that of the first one or that of the second. -/
theorem IsBrief.bind {first : Except DecodeError α} {next : α → Except DecodeError β}
    (hfirst : IsBrief bound n first)
    (hnext : ∀ value, first = .ok value → IsBrief bound n (next value)) :
    IsBrief bound n (first >>= next) := by
  intro error h
  rcases bind_eq_error_iff.1 h with h | ⟨value, hvalue, h⟩
  · exact hfirst error h
  · exact hnext value hvalue error h

theorem IsBrief.map {read : Except DecodeError α} (h : IsBrief bound n read) (f : α → β) :
    IsBrief bound n (read.map f) :=
  fun error he => h error (map_eq_error_iff.1 he)

/-- What is found in place of something else is quoted from the source. -/
theorem isBrief_mismatch {expected : String} (hexpected : expected.length ≤ bound)
    (h : source.Within n) :
    IsBrief bound n (.error (Decoder.mismatch expected source) : Except DecodeError α) := by
  refine isBrief_error ?_
  induction h with
  | null | bool b | array fault _ _ _ | object fault _ _ => exact ⟨trivial, hexpected⟩
  | @number k h =>
    rcases k with error | (i | x)
    · trivial
    · exact ⟨h i rfl, hexpected⟩
    · exact ⟨trivial, hexpected⟩
  | @string s h =>
    rcases s with error | text
    · trivial
    · exact ⟨h text rfl, hexpected⟩
  | deep _ ih => exact ih
  | broken fault => trivial

end DecodeError

open DecodeError

/-! ## Plain values, lists and maps -/

namespace Decoder

/-- The errors of the decoder hold no more of a text than there is in the text. -/
def LimitedBy (decode : Decoder α) (bound : Nat) : Prop :=
  ∀ {n : Nat} {source : Source}, source.Within n → IsBrief bound n (decode source)

/-- That is so for every bound from some number on. -/
class Limited (decode : Decoder α) : Prop where
  eventually : ∀ᶠ bound in atTop, decode.LimitedBy bound

theorem eventually_limitedBy (decode : Decoder α) [decode.Limited] :
    ∀ᶠ bound in atTop, decode.LimitedBy bound :=
  Limited.eventually

instance : string.Limited where
  eventually := by
    filter_upwards [eventually_ge_atTop "a string".length] with bound hbound n source h
    cases source with
    | string s => exact isBrief_ofTextError s
    | _ => exact isBrief_mismatch hbound h

instance : bool.Limited where
  eventually := by
    filter_upwards [eventually_ge_atTop "a boolean".length] with bound hbound n source h
    cases source with
    | bool b => exact isBrief_ok b
    | _ => exact isBrief_mismatch hbound h

instance : json.Limited where
  eventually := .of_forall fun _ _ _ _ => isBrief_ofTextError _

section Container

variable {decode : Decoder α} {bound n : Nat}

/-- The items of an array are read one by one, up to the first error. -/
theorem LimitedBy.items (hdecode : decode.LimitedBy bound) {sources : List Source}
    (h : ∀ source ∈ sources, source.Within n) : IsBrief bound n (items decode sources) := by
  induction sources with
  | nil => exact isBrief_ok []
  | cons source rest ih =>
    obtain ⟨hsource, hrest⟩ := List.forall_mem_cons.1 h
    exact (hdecode hsource).bind fun value _ => (ih hrest).bind fun values _ => isBrief_ok _

/-- The members of an object are read one by one, up to the first error. -/
theorem LimitedBy.entries (hdecode : decode.LimitedBy bound)
    {members : List (Except TextError String × Source)}
    (h : ∀ member ∈ members, member.2.Within n) : IsBrief bound n (entries decode members) := by
  induction members with
  | nil => exact isBrief_ok []
  | cons member rest ih =>
    obtain ⟨name, source⟩ := member
    obtain ⟨hsource, hrest⟩ := List.forall_mem_cons.1 h
    refine (isBrief_ofTextError name).bind fun name _ => ?_
    exact (hdecode hsource).bind fun value _ => (ih hrest).bind fun values _ => isBrief_ok _

variable [decode.Limited]

instance : (nullable decode).Limited where
  eventually := by
    filter_upwards [eventually_limitedBy decode] with bound hdecode n source h
    cases source with
    | null => exact isBrief_ok none
    | _ => exact (hdecode h).map some

instance : (list decode).Limited where
  eventually := by
    filter_upwards [eventually_limitedBy decode, eventually_ge_atTop "a sequence".length] with bound
      hdecode hbound n source h
    unfold list
    split
    · cases h with
      | array _ _ hsources =>
        exact (hdecode.items hsources).bind fun values _ =>
          (isBrief_ofTextError _).bind fun _ _ => isBrief_ok values
    · exact isBrief_error trivial
    · exact isBrief_mismatch hbound h

instance : (map decode).Limited where
  eventually := by
    filter_upwards [eventually_limitedBy decode, eventually_ge_atTop "a map".length] with bound
      hdecode hbound n source h
    unfold map
    split
    · cases h with
      | object _ hmembers =>
        exact (hdecode.entries hmembers).bind fun values _ =>
          (isBrief_ofTextError _).bind fun _ _ => isBrief_ok _
    · exact isBrief_error trivial
    · exact isBrief_mismatch hbound h

end Container

end Decoder

/-! ## Fields -/

/-- What is given for fields holds no more of a text than there is; items stand for a form that is
expected. -/
def Given.Within (n : Nat) (expected : String) : Given → Prop
  | .byName members => ∀ member ∈ members, member.2.Within n
  | .byPlace items _ form => form = expected ∧ ∀ item ∈ items, item.Within n

/-- What is found for a field is one of the members or items that are given. -/
theorem Given.Within.find? {n place : Nat} {expected name : String} {given : Given}
    {source : Source} (h : given.Within n expected) (hfind : given.find? name place = some source) :
    source.Within n := by
  cases given with
  | byName members => exact h _ (Members.mem_of_find?_eq_some hfind)
  | byPlace items fault form => exact h.2 _ (List.mem_of_getElem? hfind)

namespace Fields

/-- The errors of the search for the first error hold no more of a text than there is in the
text. -/
def ChecksWithin (fields : Fields α) (bound : Nat) : Prop :=
  ∀ entry ∈ fields.checks, entry.1.length ≤ bound ∧ Decoder.LimitedBy entry.2 bound

/-- The errors of putting the fields together hold no more either. -/
def BuildsWithin (fields : Fields α) (place : Nat) (expected : String) (bound : Nat) : Prop :=
  ∀ (given : Given) {n : Nat}, given.Within n expected → IsBrief bound n (fields.build given place)

/-- That is so for every bound from some number on. -/
class Limited (fields : Fields α) : Prop where
  checks : ∀ᶠ bound in atTop, fields.ChecksWithin bound
  build (place : Nat) (expected : String) :
    ∀ᶠ bound in atTop, fields.BuildsWithin place expected bound

theorem eventually_checksWithin (fields : Fields α) [fields.Limited] :
    ∀ᶠ bound in atTop, fields.ChecksWithin bound :=
  Limited.checks

theorem eventually_buildsWithin (fields : Fields α) [fields.Limited] (place : Nat)
    (expected : String) : ∀ᶠ bound in atTop, fields.BuildsWithin place expected bound :=
  Limited.build place expected

instance {f : α → β} {fields : Fields α} [fields.Limited] : (f <$> fields).Limited where
  checks := eventually_checksWithin fields
  build place expected := by
    filter_upwards [eventually_buildsWithin fields place expected] with bound hbuild given n h
    exact (hbuild given h).map f

instance {f : Fields (α → β)} {x : Fields α} [f.Limited] [x.Limited] : (f <*> x).Limited where
  checks := by
    filter_upwards [eventually_checksWithin f, eventually_checksWithin x] with bound hf hx
    exact List.forall_mem_append.2 ⟨hf, hx⟩
  build place expected := by
    filter_upwards [eventually_buildsWithin f place expected,
      eventually_buildsWithin x (place + f.checks.length) expected] with bound hf hx given n h
    exact (hf given h).bind fun g _ => (hx given h).bind fun value _ => isBrief_ok _

/-- A field has the errors of its decoder, and one that names it if it is missing. -/
theorem limited_field {name : String} {decode : Decoder α} [decode.Limited]
    {missing : Except DecodeError α} {missingItem : Option α}
    (hmissing : ∀ error, missing = .error error → error = .missingField name) :
    (field name decode missing missingItem).Limited where
  checks := by
    filter_upwards [Decoder.eventually_limitedBy decode, eventually_ge_atTop name.length] with bound
      hdecode hbound
    exact List.forall_mem_singleton.2 ⟨hbound, fun h => (hdecode h).map _⟩
  build place expected := by
    filter_upwards [Decoder.eventually_limitedBy decode, eventually_ge_atTop name.length,
      eventually_ge_atTop place, eventually_ge_atTop expected.length] with bound hdecode hname
      hplace hexpected given n h
    simp only [field]
    split
    · next source hfind => exact hdecode (h.find? hfind)
    · split
      · intro error he
        rw [hmissing error he]
        exact hname
      · obtain ⟨rfl, -⟩ := h
        refine (isBrief_ofTextError _).bind fun _ _ => ?_
        split
        · exact isBrief_ok _
        · exact isBrief_error ⟨.inl hplace, hexpected⟩

section Single

variable {name : String} {decode : Decoder α} [decode.Limited]

instance : (required name decode).Limited :=
  limited_field fun _ h => (Except.error.inj h).symm

instance {default : α} : (optional name default decode).Limited :=
  limited_field fun _ h => by cases h

instance : (nullable name decode).Limited :=
  inferInstanceAs (optional ..).Limited

end Single

section Record

variable {fields : Fields α} {bound n : Nat} {members : List (Except TextError String × Source)}

/-- Along the members, an error names a field that is there twice, or comes of its value or of that
of a member which is not known. -/
theorem isBrief_checkMembers (hchecks : fields.ChecksWithin bound)
    (other : Source → Except TextError Unit) (h : ∀ member ∈ members, member.2.Within n)
    (seen : List String) : IsBrief bound n (fields.checkMembers other seen members) := by
  induction members generalizing seen with
  | nil => exact isBrief_ok ()
  | cons member rest ih =>
    obtain ⟨name, source⟩ := member
    obtain ⟨hsource, hrest⟩ := List.forall_mem_cons.1 h
    refine (isBrief_ofTextError name).bind fun name _ => ?_
    split
    · next check hlookup =>
      obtain ⟨before, after, hsplit, -⟩ := List.lookup_eq_some_iff.1 hlookup
      obtain ⟨hname, hcheck⟩ := hchecks (name, check) (by simp [hsplit])
      split
      · exact isBrief_error hname
      · exact (hcheck hsource).bind fun _ _ => ih hrest _
    · exact (isBrief_ofTextError _).bind fun _ _ => ih hrest _

theorem within_named (h : ∀ member ∈ members, member.2.Within n) :
    ∀ member ∈ named members, member.2.Within n := by
  intro member hm
  obtain ⟨⟨name, source⟩, hgiven, hnamed⟩ := List.mem_filterMap.1 hm
  cases name with
  | error error => cases hnamed
  | ok name =>
    cases hnamed
    exact h _ hgiven

/-- Reading the fields from members is limited whatever is done with the other members. -/
def DecodesWithin (fields : Fields α) (bound : Nat) : Prop :=
  ∀ {other : Source → Except TextError Unit} {n : Nat}
    {members : List (Except TextError String × Source)} {fault : Option Fault},
    (∀ member ∈ members, member.2.Within n) →
      IsBrief bound n (fields.decodeMembers other members fault)

/-- Of a record, the errors are those of the search along the members and of putting the fields
together. -/
theorem eventually_decodesWithin (fields : Fields α) [fields.Limited] :
    ∀ᶠ bound in atTop, fields.DecodesWithin bound := by
  filter_upwards [eventually_checksWithin fields, eventually_buildsWithin fields 0 ""] with bound
    hchecks hbuild other n members fault h
  refine (isBrief_checkMembers hchecks other h []).bind fun _ _ => ?_
  exact (isBrief_ofTextError _).bind fun _ _ => hbuild (.byName _) (within_named h)

instance [fields.Limited] {name : String} : (fields.decode name).Limited where
  eventually := by
    filter_upwards [eventually_decodesWithin fields, eventually_buildsWithin fields 0
        ("struct " ++ name ++ " with " ++ elements fields.checks.length),
      eventually_ge_atTop ("struct " ++ name).length] with bound hmembers hbuild hbound n source h
    unfold decode
    split
    · cases h with
      | object _ h => exact hmembers h
    · cases h with
      | array _ _ h =>
        refine (hbuild (.byPlace _ _ _) ⟨rfl, h⟩).bind fun value _ => ?_
        split
        · exact isBrief_error trivial
        · exact (isBrief_ofTextError _).bind fun _ _ => isBrief_ok value
    · exact isBrief_error trivial
    · exact isBrief_mismatch hbound h

instance {fields : Fields (List (String × Json) → α)} [fields.Limited] {name : String} :
    (fields.decodeOpen name).Limited where
  eventually := by
    filter_upwards [eventually_decodesWithin fields,
      eventually_ge_atTop ("struct " ++ name).length] with bound hmembers hbound n source h
    unfold decodeOpen
    split
    · cases h with
      | object _ h =>
        exact (hmembers h).bind fun make _ =>
          (isBrief_ofTextError _).bind fun values _ => isBrief_ok _
    · exact isBrief_error trivial
    · exact isBrief_mismatch hbound h

end Record

end Fields

/-! ## Unions -/

namespace Union

variable {union : Union α} {bound n : Nat} {members : List (Except TextError String × Source)}

/-- A tag is quoted if it is not known, beside the tags that are. -/
theorem eventually_variant (union : Union α) :
    ∀ᶠ bound in atTop, union.variant.LimitedBy bound := by
  filter_upwards [eventually_ge_atTop "variant identifier".length,
    eventually_ge_atTop (alternatives (union.variants.map Variant.tag)).length] with bound hbound
    hknown n source h
  unfold variant
  split
  · cases h with
    | string h =>
      refine (isBrief_ofTextError _).bind fun tag htag => ?_
      split
      · exact isBrief_ok _
      · exact isBrief_error ⟨h tag (ofTextError_eq_ok_iff.1 htag), hknown⟩
  · next i =>
    split
    · exact isBrief_ok _
    · cases h with
      | number h => exact isBrief_error ⟨h i rfl, hbound⟩
  · exact isBrief_mismatch hbound h

/-- Along the members, an error is that of the tag, or of another member that is read as a value. -/
theorem isBrief_scanMembers (hvariant : union.variant.LimitedBy bound)
    (htag : tagName.length ≤ bound) (h : ∀ member ∈ members, member.2.Within n)
    (found : Option (Variant α)) : IsBrief bound n (union.scanMembers found members) := by
  induction members generalizing found with
  | nil => exact isBrief_ok found
  | cons member rest ih =>
    obtain ⟨name, source⟩ := member
    obtain ⟨hsource, hrest⟩ := List.forall_mem_cons.1 h
    refine (isBrief_ofTextError name).bind fun name _ => ?_
    split
    · split
      · exact isBrief_error htag
      · exact (hvariant hsource).bind fun variant _ => ih hrest (some variant)
    · exact (isBrief_ofTextError _).bind fun _ _ => ih hrest found

/-- The variant that the tag tells is one of the union. -/
theorem mem_of_scanMembers {variant : Variant α} : ∀ {found : Option (Variant α)},
    (∀ first, found = some first → first ∈ union.variants) →
      union.scanMembers found members = .ok (some variant) → variant ∈ union.variants := by
  induction members with
  | nil => exact fun hfound h => hfound _ (Except.ok.inj h)
  | cons member rest ih =>
    obtain ⟨name, source⟩ := member
    intro found hfound h
    obtain ⟨name, -, h⟩ := bind_eq_ok_iff.1 h
    split at h
    · split at h
      · cases h
      · obtain ⟨first, hfirst, h⟩ := bind_eq_ok_iff.1 h
        refine ih ?_ h
        rintro _ ⟨⟩
        exact (of_variant_eq_ok hfirst).2
    · obtain ⟨_, -, h⟩ := bind_eq_ok_iff.1 h
      exact ih hfound h

/-- Reading a value of the variant from the items after its tag is limited. -/
def ItemsWithin (union : Union α) (variant : Variant α) (bound : Nat) : Prop :=
  ∀ {n : Nat} {items : List Source}, items.length ≤ n → (∀ item ∈ items, item.Within n) →
    IsBrief bound n (union.decodeItems variant items)

/-- Too many items are told by their number, which the text bounds. -/
theorem eventually_itemsWithin (union : Union α) (variant : Variant α) [variant.fields.Limited] :
    ∀ᶠ bound in atTop, union.ItemsWithin variant bound := by
  filter_upwards [Fields.eventually_buildsWithin variant.fields 0
      ("struct variant " ++ union.name ++ "::" ++ variant.label ++ " with " ++
        Fields.elements variant.fields.checks.length),
    eventually_ge_atTop (Fields.elements variant.fields.checks.length ++ " in sequence").length]
    with bound hbuild hbound n items hlength h
  refine (hbuild (.byPlace _ _ _) ⟨rfl, h⟩).bind fun value _ => ?_
  split
  · exact isBrief_error ⟨.inr hlength, hbound⟩
  · exact isBrief_ok value

/-- A union has finitely many variants, so some bound is large enough for the fields of all. -/
theorem limited_decode (hvariants : ∀ variant ∈ union.variants, variant.fields.Limited) :
    union.decode.Limited where
  eventually := by
    have hfields : ∀ᶠ bound in atTop, ∀ variant ∈ {variant | variant ∈ union.variants},
        variant.fields.DecodesWithin bound ∧ union.ItemsWithin variant bound := by
      refine (Filter.eventually_all_finite (List.finite_toSet _)).2 fun variant hm => ?_
      have := hvariants variant hm
      exact variant.fields.eventually_decodesWithin.and (eventually_itemsWithin union variant)
    filter_upwards [eventually_variant union, hfields, eventually_ge_atTop tagName.length,
      eventually_ge_atTop ("internally tagged enum " ++ union.name).length] with bound hvariant
      hfields htag hbound n source h
    unfold decode
    split
    · cases h with
      | object _ h =>
        refine (isBrief_scanMembers hvariant htag h none).bind fun found hfound => ?_
        refine (isBrief_ofTextError _).bind fun _ _ => ?_
        split
        · exact isBrief_error htag
        · next variant =>
          have hmem := mem_of_scanMembers (by simp) hfound
          exact (hfields variant hmem).1 fun member hm => h member (List.mem_of_mem_filter hm)
    · exact (isBrief_ofTextError _).bind fun _ _ => isBrief_error htag
    · cases h with
      | array _ hlength h =>
        obtain ⟨htagged, hitems⟩ := List.forall_mem_cons.1 h
        refine (hvariant htagged).bind fun variant hfound => ?_
        refine (isBrief_ofTextError _).bind fun _ _ => (isBrief_ofTextError _).bind fun _ _ => ?_
        exact (hfields variant (of_variant_eq_ok hfound).2).2 (Nat.le_of_succ_le hlength) hitems
    · exact isBrief_error trivial
    · exact isBrief_mismatch hbound h

end Union

/-! ## Texts with a meaning -/

theorem Text.length_trim_le (text : List Char) : (trim text).length ≤ text.length :=
  ((isPrefix_dropEndWhile _ _).length_le).trans (List.dropWhile_suffix _).length_le

/-- The refusal of an identifier shows its detail as a whole. -/
theorem ValidationError.length_message_id (detail : String) :
    (id detail).message.length = 26 + detail.length := by
  have hwords : "Invalid Notion ID format: ".length = 26 := rfl
  change ("Invalid Notion ID format: " ++ detail).length = _
  rw [String.length_append, hwords]

namespace Identifier

/-- Cleaning a text makes it no longer. -/
theorem length_cleaned_le (text : List Char) : (cleaned text).length ≤ text.length :=
  ((Text.isPrefix_dropEndWhile _ _).length_le).trans (Text.length_trim_le text)

/-- The refusal of a text as an identifier shows no more than the text. -/
theorem length_refusal_le {text : String} {error : ParseError} (h : parse text = .error error) :
    error.refusal.message.length ≤ 60 + text.length := by
  have hcleaned : (String.ofList (cleaned text.toList)).length ≤ text.length := by
    rw [String.length_ofList, ← String.length_toList]
    exact length_cleaned_le text.toList
  have hwords : "Could not parse Notion ID from: ".length = 32 ∧
      "No valid ID found in URL: ".length = 26 := ⟨rfl, rfl⟩
  unfold parse at h
  dsimp only at h
  split at h
  · cases h
  · split at h
    · split at h
      · cases h
      · cases h
        rw [ParseError.refusal, ValidationError.length_message_id, String.length_append]
        omega
    · cases h
      rw [ParseError.refusal, ValidationError.length_message_id, String.length_append]
      omega

end Identifier

/-- A string that was read is one of the text. -/
theorem Decoder.length_le_of_string {n : Nat} {source : Source} {text : String}
    (h : source.Within n) (htext : string source = .ok text) : text.length ≤ n := by
  unfold string at htext
  split at htext
  · cases h with
    | string h => exact h text (ofTextError_eq_ok_iff.1 htext)
  · cases htext

instance : Identifier.decode.Limited where
  eventually := by
    filter_upwards [Decoder.eventually_limitedBy Decoder.string, eventually_ge_atTop 60] with bound
      hstring hbound n source h
    refine (hstring h).bind fun text htext => ?_
    split
    · exact isBrief_ok _
    · next refusal hrefusal =>
      have hrefused := Identifier.length_refusal_le hrefusal
      have hlength := Decoder.length_le_of_string h htext
      have hwithin : refusal.refusal.message.length ≤ bound + n := by omega
      exact isBrief_error hwithin

instance : Timestamp.decode.Limited where
  eventually := by
    filter_upwards [eventually_ge_atTop "an RFC 3339 formatted date and time string".length] with
      bound hbound n source h
    unfold Timestamp.decode
    split
    · refine (isBrief_ofTextError _).bind fun text _ => ?_
      split
      · exact isBrief_ok _
      · exact isBrief_error trivial
    · exact isBrief_mismatch hbound h

/-! ## Types -/

/-- Why the trial whether a value is typed fails is not told. -/
instance : PropertyValue.decode.Limited where
  eventually := .of_forall fun bound n source _ => by
    refine (isBrief_ofTextError _).bind fun value _ => ?_
    split <;> exact isBrief_ok _

instance : Parent.decode.Limited :=
  Union.limited_decode <| by
    simp only [Parent.union, List.forall_mem_cons]
    exact ⟨inferInstance, inferInstance, inferInstance, inferInstance, List.forall_mem_nil _⟩

instance : TextContent.decode.Limited := by
  unfold TextContent.decode TextContent.fields
  infer_instance

instance : RichText.decode.Limited := by
  unfold RichText.decode RichText.fields
  infer_instance

instance : ChildTitle.decode.Limited := by
  unfold ChildTitle.decode ChildTitle.fields
  infer_instance

instance : Page.decode.Limited := by
  unfold Page.decode Page.fields Properties.decode
  infer_instance

instance : Block.decode.Limited := by
  unfold Block.decode Block.fields
  infer_instance

instance : Database.decode.Limited := by
  unfold Database.decode Database.fields RichText.decodeList
  infer_instance

instance {decode : Decoder α} [decode.Limited] : (Listing.decode decode).Limited := by
  unfold Listing.decode Listing.fields
  infer_instance

/-! ## Answers -/

/-- The error for a text holds no more of the text than there is in it. -/
theorem Decoder.LimitedBy.ofText {decode : Decoder α} {bound : Nat} (h : decode.LimitedBy bound)
    {text : String} {error : DecodeError} (he : ofText decode text = .error error) :
    error.Within bound text.length := by
  have hsource := Source.within_ofText text
  have hbrief : IsBrief bound text.length (Decoder.ofText decode text) := by
    refine (h hsource).bind fun value _ => ?_
    split
    · exact isBrief_error trivial
    · exact isBrief_ok value
  exact hbrief error he

namespace Answer

/-- The detail of a malformed answer tells the error and quotes the beginning of the text, five
hundred characters at most. Its wording has a bound but for the room that the error takes from the
text, and a string of the text that the error quotes is in it as a whole. -/
structure IsDetail (answer : Answer) (error : DecodeError) (bound : Nat) (detail : String) :
    Prop where
  message_eq : ∃ shown rest, answer.body = shown ++ rest ∧
    shown.length = min 500 answer.body.length ∧
    (Failure.malformed detail).message =
      "Malformed response: " ++ (error.message ++ " (body: " ++ shown ++ ")")
  length_le : (Failure.malformed detail).message.length ≤ bound + error.room answer.body.length
  length_quoted : ∀ s, error.quoted? = some s →
    s.length ≤ (Failure.malformed detail).message.length ∧ s.length ≤ bound + answer.body.length

/-- That is so of every answer of success whose text is not read. -/
def IsReportedWithin (bound : Nat) (decode : Decoder α) : Prop :=
  ∀ (answer : Answer) (server : Server) (error : DecodeError), answer.Succeeded →
    Decoder.ofText decode answer.body = .error error → ∃ detail,
      ((Answer.read decode answer).run server).outcome = .error (.malformed detail) ∧
        answer.IsDetail error bound detail

/-- The failure tells the error and shows the beginning of the text. -/
theorem verdict_of_error {decode : Decoder α} {answer : Answer} {error : DecodeError}
    (hsucceeded : answer.Succeeded) (he : Decoder.ofText decode answer.body = .error error) :
    answer.verdict decode =
      .error (.malformed (error.message ++ " (body: " ++ preview answer.body ++ ")")) := by
  rw [verdict, if_pos (answer.isSuccess_iff.2 hsucceeded), he]

theorem length_message_malformed (message shown : String) :
    (Failure.malformed (message ++ " (body: " ++ shown ++ ")")).message.length =
      message.length + shown.length + 29 := by
  have hwords : "Malformed response: ".length = 20 ∧ " (body: ".length = 8 ∧
      ")".length = 1 := ⟨rfl, rfl, rfl⟩
  change ("Malformed response: " ++ (message ++ " (body: " ++ shown ++ ")")).length = _
  simp only [String.length_append]
  omega

/-- For a limited decoder one bound is enough for all answers: twice what the decoder may say of
itself, the words around it, and the beginning of the text. -/
theorem exists_isReportedWithin_of_limited (decode : Decoder α) [decode.Limited] :
    ∃ bound, IsReportedWithin bound decode := by
  obtain ⟨limit, hlimit⟩ := (Decoder.eventually_limitedBy decode).exists
  obtain ⟨base, hbase⟩ := DecodeError.exists_length_message_le
  refine ⟨2 * limit + base + 530, fun answer server error hsucceeded he => ?_⟩
  have hwithin := hlimit.ofText he
  have hmessage := hbase hwithin
  obtain ⟨rest, hbody, hshown⟩ := exists_preview_append answer.body
  have hverdict := verdict_of_error hsucceeded he
  refine ⟨_, (comesTo_read decode answer server).outcome_eq.trans hverdict,
    ⟨preview answer.body, rest, hbody, hshown, rfl⟩, ?_, fun s hs => ⟨?_, ?_⟩⟩
  · rw [length_message_malformed]
    generalize error.room answer.body.length = room at hmessage ⊢
    omega
  · have hshort := (hwithin.length_message hs).1
    rw [length_message_malformed]
    omega
  · have hshort := hwithin.length_le_of_quoted hs
    omega

end Answer

/-- What the API is asked for: a page, a database, or a part of a list of blocks or of records. -/
inductive Expected where
  | page
  | database
  | blocks
  | records

namespace Expected

/-- The type of the values that are asked for. -/
abbrev Value : Expected → Type
  | page => Page
  | database => Database
  | blocks => Listing Block
  | records => Listing Page

/-- Reads a value that was asked for. -/
def decode : (expected : Expected) → Decoder expected.Value
  | page => Page.decode
  | database => Database.decode
  | blocks => Listing.decode Block.decode
  | records => Listing.decode Page.decode

instance (expected : Expected) : expected.decode.Limited := by
  cases expected with
  | page => exact inferInstanceAs Page.decode.Limited
  | database => exact inferInstanceAs Database.decode.Limited
  | blocks => exact inferInstanceAs (Listing.decode Block.decode).Limited
  | records => exact inferInstanceAs (Listing.decode Page.decode).Limited

end Expected

namespace Answer

/-- Whatever the API was asked for, the failure of an answer of success whose text is not that has a
bound, the same for all texts, but for what the decoder's error takes from the text: the beginning
of the text is all that is quoted beside that. -/
theorem exists_isReportedWithin (expected : Expected) :
    ∃ bound, IsReportedWithin bound expected.decode :=
  exists_isReportedWithin_of_limited expected.decode

/-- A null is no page, and the wording takes nothing from it but its length. -/
theorem exists_isReportedWithin_sample : ∃ bound detail,
    ((Answer.read Page.decode ⟨200, "", Json.null.compact⟩).run (.scripted [])).outcome =
      .error (.malformed detail) ∧
    (Failure.malformed detail).message.length ≤ bound + digitCount Json.null.compact.length := by
  obtain ⟨bound, hpage⟩ := exists_isReportedWithin .page
  have he : Decoder.ofText Page.decode Json.null.compact =
      .error (.unexpected .null "struct Page") := by
    rw [Decoder.ofText_compact]
    rfl
  obtain ⟨detail, houtcome, hdetail⟩ := hpage ⟨200, "", Json.null.compact⟩ (.scripted []) _
    ⟨by decide, by decide⟩ he
  exact ⟨bound, detail, houtcome, hdetail.length_le⟩

/-! ## Strings that are quoted -/

/-- A string is no record, and the error quotes it. -/
theorem ofText_string (fields : Fields α) (name text : String) :
    Decoder.ofText (fields.decode name) (Json.string text).compact =
      .error (.unexpected (.string text) ("struct " ++ name)) := by
  rw [Decoder.ofText_compact]
  rfl

/-- There is no bound for all texts, as an answer that is a string is shown as a whole. -/
theorem not_bounded : ¬∃ bound, ∀ (answer : Answer) (server : Server) (detail : String),
    answer.Succeeded →
      ((Answer.read Page.decode answer).run server).outcome = .error (.malformed detail) →
        (Failure.malformed detail).message.length ≤ bound := by
  rintro ⟨bound, h⟩
  let text := String.ofList (List.replicate (bound + 1) 'a')
  obtain ⟨_, hreported⟩ := exists_isReportedWithin_of_limited Page.decode
  obtain ⟨detail, houtcome, hdetail⟩ := hreported ⟨200, "", (Json.string text).compact⟩
    (.scripted []) _ ⟨by simp, by simp⟩ (ofText_string Page.fields "Page" text)
  have hshown := (hdetail.length_quoted text rfl).1
  have hlength : text.length = bound + 1 := by
    rw [String.length_ofList, List.length_replicate]
  have hbound := h _ _ detail ⟨by simp, by simp⟩ houtcome
  omega

end Answer

end NotionProject
