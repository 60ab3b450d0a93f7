import NotionProject.Json.Source

/-!
# Values with different names

A value of which no object has two members of one name (`Json.distinct`) says the same in every
order of its members. Its canonical form is one such order: the names are the same, and under each
is the canonical form of what was there (`Json.member?_canonical`). The source of a value is read
as its canonical form, and nothing goes wrong on the way (`Source.toJson_ofJson`,
`Source.skip_ofJson`).
-/

namespace NotionProject

namespace Members

variable {α β : Type}

/-! ## Members with other values -/

/-- The members with each value changed. -/
def mapValues (f : α → β) (members : Members α) : Members β :=
  members.map fun member => (member.1, f member.2)

@[simp] theorem mapValues_nil (f : α → β) : mapValues f [] = [] := rfl

@[simp] theorem mapValues_cons (f : α → β) (name : String) (value : α) (rest : Members α) :
    mapValues f ((name, value) :: rest) = (name, f value) :: mapValues f rest := rfl

/-- Changing the values leaves the names as they are. -/
@[simp] theorem names_mapValues (f : α → β) (members : Members α) :
    (members.mapValues f).names = members.names := by
  simp [names, mapValues, Function.comp_def]

/-- Under a name stands the changed value of what stood there. -/
@[simp] theorem find?_mapValues (f : α → β) (members : Members α) (name : String) :
    (members.mapValues f).find? name = (members.find? name).map f := by
  induction members with
  | nil => rfl
  | cons member rest ih =>
    obtain ⟨n, v⟩ := member
    by_cases h : n = name
    · simp [find?, h]
    · simpa [find?, h] using ih

/-- A member is put into its place by its name, whatever becomes of the values. -/
theorem putSorted_mapValues (f : α → β) (members : Members α) (name : String) (value : α) :
    (members.mapValues f).putSorted name (f value) =
      (members.putSorted name value).mapValues f := by
  induction members with
  | nil => rfl
  | cons member rest ih =>
    obtain ⟨n, v⟩ := member
    simp only [mapValues_cons, putSorted]
    split
    · rfl
    · split
      · rfl
      · rw [ih, mapValues_cons]

/-- So values are changed and members sorted in either order. -/
theorem sorted_mapValues (f : α → β) (members : Members α) :
    (members.mapValues f).sorted = members.sorted.mapValues f := by
  have key : ∀ members acc : Members α,
      (members.mapValues f).foldl (fun acc member => acc.putSorted member.1 member.2)
          (acc.mapValues f) =
        mapValues f (members.foldl (fun acc member => acc.putSorted member.1 member.2) acc) := by
    intro members
    induction members with
    | nil => exact fun acc => rfl
    | cons member rest ih =>
      obtain ⟨n, v⟩ := member
      intro acc
      rw [mapValues_cons, List.foldl_cons, List.foldl_cons, putSorted_mapValues, ih]
  exact key members []

/-! ## Fewer members -/

/-- The members under the names that are kept. -/
def keepNames (keep : String → Bool) (members : Members α) : Members α :=
  members.filter fun member => keep member.1

/-- Under a name that is kept the same is found, and under any other nothing. -/
theorem find?_keepNames (keep : String → Bool) (members : Members α) (name : String) :
    (members.keepNames keep).find? name = if keep name then members.find? name else none := by
  induction members with
  | nil => simp [keepNames, find?]
  | cons member rest ih =>
    obtain ⟨n, v⟩ := member
    unfold keepNames at ih ⊢
    by_cases hn : n = name
    · subst hn
      cases hk : keep n <;> simp [hk, find?, ih]
    · cases hk : keep n <;> simp [hk, find?, hn, ih]

/-- The names that are kept stand in the order that they had. -/
theorem names_keepNames_sublist (keep : String → Bool) (members : Members α) :
    (members.keepNames keep).names.Sublist members.names :=
  List.filter_sublist.map Prod.fst

/-- Which members are kept does not depend on the values. -/
theorem keepNames_mapValues (keep : String → Bool) (f : α → β) (members : Members α) :
    (members.mapValues f).keepNames keep = (members.keepNames keep).mapValues f := by
  simp [keepNames, mapValues, List.filter_map, Function.comp_def]

theorem names_cons (name : String) (value : α) (rest : Members α) :
    names ((name, value) :: rest) = name :: names rest := rfl

/-- The members under some names. -/
def under (own : List String) (members : Members α) : Members α :=
  members.keepNames own.contains

theorem under_cons (own : List String) (name : String) (value : α) (members : Members α) :
    under own ((name, value) :: members) =
      if name ∈ own then (name, value) :: members.under own else members.under own := by
  by_cases h : name ∈ own <;> simp [under, keepNames, h]

theorem mem_under {own : List String} {members : Members α} {member : String × α} :
    member ∈ members.under own ↔ member ∈ members ∧ member.1 ∈ own := by
  simp [under, keepNames]

/-- Under one of the names the same is found as in all members. -/
theorem find?_under {own : List String} {name : String} (members : Members α) (h : name ∈ own) :
    (members.under own).find? name = members.find? name := by
  rw [under, find?_keepNames, if_pos (List.contains_iff_mem.2 h)]

/-- If no name is there twice, there is one member under a name or none. -/
theorem under_singleton_iff {name : String} {value : α} : ∀ {members : Members α},
    members.names.Nodup →
      (members.under [name] = [(name, value)] ↔ members.find? name = some value)
  | [], _ => by simp [under, keepNames, find?]
  | (n, v) :: rest, h => by
    obtain ⟨hn, hrest⟩ := List.nodup_cons.1 h
    rw [under_cons, find?]
    by_cases hname : n = name
    · subst hname
      have hnone : under [n] rest = [] := by
        refine List.filter_eq_nil_iff.2 fun member hm hmem => ?_
        rw [List.contains_iff_mem, List.mem_singleton] at hmem
        have hnames : member.1 ∈ names rest := List.mem_map_of_mem hm
        exact hn (hmem ▸ hnames)
      simp [hnone]
    · simp [hname, under_singleton_iff hrest]

/-- Names that rise still do if some are left out. -/
theorem Rising.keepNames {members : Members α} (h : members.Rising) (keep : String → Bool) :
    (members.keepNames keep).Rising :=
  List.Pairwise.sublist (names_keepNames_sublist keep members) h

/-! ## Sorted members -/

/-- Nothing is found exactly under the names that are not there. -/
theorem find?_eq_none_iff {members : Members α} {name : String} :
    members.find? name = none ↔ name ∉ members.names := by
  rw [mem_names_iff, Bool.not_eq_true, Option.isSome_eq_false_iff, Option.isNone_iff_eq_none]

/-- In sorted members is found what was there, if no name was there twice. -/
theorem find?_sorted {members : Members α} (h : members.names.Nodup) (name : String) :
    members.sorted.find? name = members.find? name := by
  have key : ∀ members acc : Members α, members.names.Nodup →
      find? (members.foldl (fun acc member => acc.putSorted member.1 member.2) acc) name =
        (members.find? name).or (acc.find? name) := by
    intro members
    induction members with
    | nil => exact fun acc _ => rfl
    | cons member rest ih =>
      obtain ⟨n, v⟩ := member
      intro acc h
      obtain ⟨hn, hrest⟩ := List.nodup_cons.1 h
      rw [List.foldl_cons, ih _ hrest, find?_putSorted]
      by_cases he : n = name
      · have hnone : find? rest name = none := find?_eq_none_iff.2 (he ▸ hn)
        simp [find?, he, hnone]
      · simp [find?, he]
  rw [sorted, key members [] h, find?, Option.or_none]

/-- Sorted members are those that there were, if no name was there twice. -/
theorem mem_sorted {members : Members α} (h : members.names.Nodup) {member : String × α} :
    member ∈ members.sorted ↔ member ∈ members := by
  rw [← find?_eq_some_iff h, ← find?_sorted h, find?_eq_some_iff (rising_sorted members).nodup]

/-- Members with rising names are known by what is found in them. -/
theorem Rising.eq_of_find? : ∀ {first second : Members α}, first.Rising → second.Rising →
    (∀ name, first.find? name = second.find? name) → first = second
  | [], [], _, _, _ => rfl
  | [], (n, v) :: rest, _, _, h => by simpa [find?] using h n
  | (n, v) :: rest, [], _, _, h => by simpa [find?] using h n
  | (n, v) :: rest, (m, w) :: others, hfirst, hsecond, h => by
    obtain ⟨hn, hrest⟩ := List.pairwise_cons.1 hfirst
    obtain ⟨hm, hothers⟩ := List.pairwise_cons.1 hsecond
    have hnames : ∀ name, name = n ∨ name ∈ names rest ↔ name = m ∨ name ∈ names others := by
      intro name
      have hmem : name ∈ names ((n, v) :: rest) ↔ name ∈ names ((m, w) :: others) := by
        rw [mem_names_iff, mem_names_iff, h]
      simpa [names] using hmem
    have hnm : n = m := by
      refine Decidable.byContradiction fun hne => ?_
      have hlt := hm n (((hnames n).1 (Or.inl rfl)).resolve_left hne)
      have hgt := hn m (((hnames m).2 (Or.inl rfl)).resolve_left (Ne.symm hne))
      exact String.lt_asymm hlt hgt
    subst hnm
    have hv : v = w := by simpa [find?] using h n
    have htail : ∀ name, find? rest name = find? others name := by
      intro name
      by_cases he : n = name
      · subst he
        rw [find?_eq_none_iff.2 fun hmem => String.lt_irrefl n (hn n hmem),
          find?_eq_none_iff.2 fun hmem => String.lt_irrefl n (hm n hmem)]
      · simpa [find?, he] using h name
    rw [hv, Rising.eq_of_find? hrest hothers htail]

end Members

namespace Json

open Members

@[simp] theorem orNull_none : orNull none = null := rfl

@[simp] theorem orNull_some (value : Json) : orNull (some value) = value := rfl

/-! ## Canonical form -/

/-- The items of a canonical form are the canonical forms of the items. -/
theorem canonicalItems_eq (items : List Json) : canonicalItems items = items.map canonical := by
  induction items with
  | nil => rfl
  | cons value rest ih => rw [canonicalItems, ih, List.map_cons]

/-- Within the members the values become canonical; the order of the names is not touched yet. -/
theorem canonicalMembers_eq (members : Members Json) :
    canonicalMembers members = members.mapValues canonical := by
  induction members with
  | nil => rfl
  | cons member rest ih =>
    obtain ⟨name, value⟩ := member
    rw [canonicalMembers, ih, mapValues_cons]

/-- The canonical form of an object has the canonical forms of its values, sorted by the names. -/
theorem canonical_object (members : Members Json) :
    (object members).canonical = .object (members.mapValues canonical).sorted := by
  rw [canonical, canonicalMembers_eq]

mutual

/-- A canonical form is its own canonical form. -/
theorem canonical_canonical : ∀ value : Json, value.canonical.canonical = value.canonical
  | null | bool _ | number _ | string _ => rfl
  | array items => by rw [canonical, canonical, canonicalItems_canonicalItems]
  | object members => by
    have hmap : canonicalMembers (sorted (canonicalMembers members)) =
        sorted (canonicalMembers members) := by
      rw [canonicalMembers_eq (sorted _), ← sorted_mapValues, ← canonicalMembers_eq,
        canonicalMembers_canonicalMembers]
    rw [canonical, canonical, hmap, sorted_eq_self (rising_sorted _)]

theorem canonicalItems_canonicalItems : ∀ items : List Json,
    canonicalItems (canonicalItems items) = canonicalItems items
  | [] => rfl
  | value :: rest => by
    simp only [canonicalItems, canonical_canonical value, canonicalItems_canonicalItems rest]

theorem canonicalMembers_canonicalMembers : ∀ members : Members Json,
    canonicalMembers (canonicalMembers members) = canonicalMembers members
  | [] => rfl
  | (name, value) :: rest => by
    simp only [canonicalMembers, canonical_canonical value, canonicalMembers_canonicalMembers rest]

end

/-! ## Different names -/

mutual

/-- Whether no object in the value has two members of one name. -/
def distinct : Json → Bool
  | null | bool _ | number _ | string _ => true
  | array items => distinctItems items
  | object members => decide (names members).Nodup && distinctMembers members

/-- Whether that holds of every item. -/
def distinctItems : List Json → Bool
  | [] => true
  | value :: rest => distinct value && distinctItems rest

/-- Whether that holds of the value of every member. -/
def distinctMembers : List (String × Json) → Bool
  | [] => true
  | (_, value) :: rest => distinct value && distinctMembers rest

end

theorem distinctItems_iff {items : List Json} :
    distinctItems items = true ↔ ∀ value ∈ items, value.distinct = true := by
  induction items with
  | nil => simp [distinctItems]
  | cons value rest ih => simp [distinctItems, ih]

theorem distinctMembers_iff {members : Members Json} :
    distinctMembers members = true ↔ ∀ member ∈ members, member.2.distinct = true := by
  induction members with
  | nil => simp [distinctMembers]
  | cons member rest ih => simp [distinctMembers, ih]

/-- An array is a value of different names if its items are. -/
theorem distinct_array {items : List Json} :
    (array items).distinct = true ↔ ∀ value ∈ items, value.distinct = true := by
  rw [distinct, distinctItems_iff]

/-- An object is one if its own names differ and its values are such values. -/
theorem distinct_object {members : Members Json} :
    (object members).distinct = true ↔
      members.names.Nodup ∧ ∀ member ∈ members, member.2.distinct = true := by
  rw [distinct, Bool.and_eq_true, decide_eq_true_eq, distinctMembers_iff]

theorem nodup_of_distinct {value : Json} (h : value.distinct = true) :
    ∀ members, value = object members → (names members).Nodup := by
  rintro members rfl
  exact (distinct_object.1 h).1

/-- In the canonical form of a value of different names is the canonical form of what was there. -/
theorem member?_canonical {value : Json} (h : value.distinct = true) (name : String) :
    value.canonical.member? name = (value.member? name).map canonical := by
  cases value with
  | object members =>
    have hnodup : (names (mapValues canonical members)).Nodup := by
      rw [names_mapValues]
      exact (distinct_object.1 h).1
    rw [canonical_object, member?, member?, find?_sorted hnodup, find?_mapValues]
  | null | bool b | number n | string s | array items => rfl

/-- A string is its own canonical form, and nothing else becomes one. -/
theorem asString?_canonical (value : Json) : value.canonical.asString? = value.asString? := by
  cases value <;> rfl

end Json

namespace Source

open Members

/-! ## The source of a value -/

/-- The items of the source of an array are the sources of the items. -/
theorem ofItems_eq (items : List Json) : ofItems items = items.map ofJson := by
  induction items with
  | nil => rfl
  | cons value rest ih => rw [ofItems, ih, List.map_cons]

/-- Every name in the source of an object can be read. -/
theorem ofMembers_eq (members : Members Json) :
    ofMembers members = members.map fun member => (.ok member.1, ofJson member.2) := by
  induction members with
  | nil => rfl
  | cons member rest ih =>
    obtain ⟨name, value⟩ := member
    rw [ofMembers, ih, List.map_cons]

mutual

/-- The source of a value is read as its canonical form. -/
theorem toJson_ofJson : ∀ value : Json, (ofJson value).toJson = .ok value.canonical
  | .null => rfl
  | .bool _ => rfl
  | .number _ => rfl
  | .string _ => rfl
  | .array items => by
    rw [ofJson, toJson, itemsToJson_ofItems]
    rfl
  | .object members => by
    rw [ofJson, toJson, membersToJson_ofMembers]
    rfl

/-- Items are read one by one, so each becomes canonical. -/
theorem itemsToJson_ofItems : ∀ items : List Json,
    itemsToJson (ofItems items) = .ok (Json.canonicalItems items)
  | [] => rfl
  | value :: rest => by
    rw [ofItems, itemsToJson, toJson_ofJson value, itemsToJson_ofItems rest]
    rfl

/-- Members are read in the order in which they stand; what holds them sorts them then. -/
theorem membersToJson_ofMembers : ∀ members : Members Json,
    membersToJson (ofMembers members) = .ok (Json.canonicalMembers members)
  | [] => rfl
  | (name, value) :: rest => by
    rw [ofMembers, membersToJson, toJson_ofJson value, membersToJson_ofMembers rest]
    rfl

end

mutual

/-- Nothing goes wrong in the source of a value when it is passed over. -/
theorem skip_ofJson : ∀ value : Json, (ofJson value).skip = .ok ()
  | .null => rfl
  | .bool _ => rfl
  | .number _ => rfl
  | .string _ => rfl
  | .array items => by
    rw [ofJson, skip, skipItems_ofItems]
    rfl
  | .object members => by
    rw [ofJson, skip, skipMembers_ofMembers]
    rfl

theorem skipItems_ofItems : ∀ items : List Json, skipItems (ofItems items) = .ok ()
  | [] => rfl
  | value :: rest => by
    rw [ofItems, skipItems, skip_ofJson value, skipItems_ofItems rest]
    rfl

theorem skipMembers_ofMembers : ∀ members : Members Json,
    skipMembers (ofMembers members) = .ok ()
  | [] => rfl
  | (name, value) :: rest => by
    rw [ofMembers, skipMembers, skip_ofJson value, skipMembers_ofMembers rest]
    rfl

end

end Source

end NotionProject
