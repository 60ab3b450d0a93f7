/-!
# Named values in order

A list of pairs serves as a map in two disciplines. In the first, `put`, a name keeps the
place where it was first put and takes the value that was put last. In the second,
`putSorted`, the names stand in rising order of their code points, and again the last value
counts. `find?` looks a name up in either. `collapse` and `sorted` bring any
members into the two forms, and change nothing that has the form already
(`collapse_eq_self`, `sorted_eq_self`).
-/

namespace NotionProject

/-- Values under names, in order. -/
abbrev Members (α : Type) := List (String × α)

namespace Members

variable {α β : Type}

/-- The names, in order. -/
def names (members : Members α) : List String :=
  members.map Prod.fst

/-- The value under a name. -/
def find? (members : Members α) (name : String) : Option α :=
  match members with
  | [] => none
  | (n, value) :: rest => if n = name then some value else find? rest name

/-- A value under a name: in the place of the name if it is there, else at the end. -/
def put (members : Members α) (name : String) (value : α) : Members α :=
  match members with
  | [] => [(name, value)]
  | (n, v) :: rest => if n = name then (n, value) :: rest else (n, v) :: put rest name value

/-- The members with each name once, in the order of first use, with its last value. -/
def collapse (members : Members α) : Members α :=
  members.foldl (fun acc member => acc.put member.1 member.2) []

/-- A value under a name, in members whose names rise. -/
def putSorted (members : Members α) (name : String) (value : α) : Members α :=
  match members with
  | [] => [(name, value)]
  | (n, v) :: rest =>
    if name < n then (name, value) :: (n, v) :: rest
    else if n = name then (n, value) :: rest
    else (n, v) :: putSorted rest name value

/-- The members with each name once, in rising order, with its last value. -/
def sorted (members : Members α) : Members α :=
  members.foldl (fun acc member => acc.putSorted member.1 member.2) []

/-! ## Looking up -/

/-- What was put is found, and nothing else changes. -/
theorem find?_put (members : Members α) (name other : String) (value : α) :
    (members.put name value).find? other =
      if name = other then some value else members.find? other := by
  induction members with
  | nil => rfl
  | cons member rest ih =>
    obtain ⟨n, v⟩ := member
    by_cases h : n = name
    · subst h
      by_cases ho : n = other <;> simp [put, find?, ho]
    · by_cases ho : n = other
      · subst ho
        simp [put, find?, h, Ne.symm h]
      · simp [put, find?, h, ho, ih]

/-- In either discipline what was put is found, and nothing else changes. -/
theorem find?_putSorted (members : Members α) (name other : String) (value : α) :
    (members.putSorted name value).find? other =
      if name = other then some value else members.find? other := by
  induction members with
  | nil => rfl
  | cons member rest ih =>
    obtain ⟨n, v⟩ := member
    by_cases hlt : name < n
    · simp [putSorted, hlt, find?]
    · by_cases h : n = name
      · subst h
        by_cases ho : n = other <;> simp [putSorted, find?, ho]
      · by_cases ho : n = other
        · subst ho
          simp [putSorted, find?, h, Ne.symm h, hlt]
        · simp [putSorted, find?, h, ho, hlt, ih]

/-- Putting a value adds its name at the end, if it is new. -/
theorem names_put (members : Members α) (name : String) (value : α) :
    (members.put name value).names =
      if name ∈ members.names then members.names else members.names ++ [name] := by
  induction members with
  | nil => simp [put, names]
  | cons member rest ih =>
    obtain ⟨n, v⟩ := member
    by_cases h : n = name
    · subst h
      simp [put, names]
    · simp only [put, h, if_false, names, List.map_cons, List.mem_cons, Ne.symm h, false_or]
        at ih ⊢
      by_cases hm : name ∈ rest.map Prod.fst <;> simp [ih, hm]

/-- A name is among the names exactly when it has a value. -/
theorem mem_names_iff {members : Members α} {name : String} :
    name ∈ members.names ↔ (members.find? name).isSome := by
  induction members with
  | nil => simp [names, find?]
  | cons member rest ih =>
    obtain ⟨n, v⟩ := member
    by_cases h : n = name
    · simp [names, find?, h]
    · simp only [names, List.map_cons, List.mem_cons, Ne.symm h, false_or, find?, h, if_false]
      exact ih

/-- What is found is there. -/
theorem mem_of_find?_eq_some {members : Members α} {name : String} {value : α}
    (h : members.find? name = some value) : (name, value) ∈ members := by
  induction members with
  | nil => cases h
  | cons member rest ih =>
    obtain ⟨n, v⟩ := member
    by_cases hn : n = name
    · simp only [find?, hn, if_true, Option.some.injEq] at h
      simp [hn, h]
    · simp only [find?, hn, if_false] at h
      exact List.mem_cons_of_mem _ (ih h)

/-! ## Different names -/

/-- If no name is there twice, what is there is found. -/
theorem find?_eq_some_iff {members : Members α} (h : members.names.Nodup) {name : String}
    {value : α} : members.find? name = some value ↔ (name, value) ∈ members := by
  refine ⟨mem_of_find?_eq_some, fun hm => ?_⟩
  induction members with
  | nil => cases hm
  | cons member rest ih =>
    obtain ⟨n, v⟩ := member
    obtain ⟨hn, hrest⟩ := List.nodup_cons.1 h
    rcases List.mem_cons.1 hm with he | hm
    · simp [find?, Prod.mk.inj he.symm]
    · have hname : name ∈ names rest := List.mem_map_of_mem (f := Prod.fst) hm
      have hne : n ≠ name := fun he => hn (he ▸ hname)
      simp only [find?, hne, if_false]
      exact ih hrest hm

/-- What is there after a value was put is that value or was there before. -/
theorem mem_of_mem_put {members : Members α} {name : String} {value : α}
    {member : String × α} (h : member ∈ members.put name value) :
    member = (name, value) ∨ member ∈ members := by
  induction members with
  | nil => exact Or.inl (List.mem_singleton.1 h)
  | cons first rest ih =>
    obtain ⟨n, v⟩ := first
    by_cases hn : n = name
    · simp only [put, hn, if_true, List.mem_cons] at h ⊢
      exact h.imp_right Or.inr
    · simp only [put, hn, if_false, List.mem_cons] at h ⊢
      rcases h with h | h
      · exact Or.inr (Or.inl h)
      · exact (ih h).imp_right Or.inr

theorem mem_of_mem_collapse {members : Members α} {member : String × α}
    (h : member ∈ members.collapse) : member ∈ members := by
  have key : ∀ (members acc : Members α),
      member ∈ members.foldl (fun acc member => acc.put member.1 member.2) acc →
        member ∈ acc ∨ member ∈ members := by
    intro members
    induction members with
    | nil => exact fun acc h => Or.inl h
    | cons first rest ih =>
      intro acc h
      rcases ih _ h with h | h
      · rcases mem_of_mem_put h with rfl | h
        · exact Or.inr List.mem_cons_self
        · exact Or.inl h
      · exact Or.inr (List.mem_cons_of_mem _ h)
  exact (key members [] h).resolve_left List.not_mem_nil

/-- A new name is put at the end. -/
theorem put_eq_append {members : Members α} {name : String} {value : α}
    (h : name ∉ members.names) : members.put name value = members ++ [(name, value)] := by
  induction members with
  | nil => rfl
  | cons member rest ih =>
    obtain ⟨n, v⟩ := member
    have hn : n ≠ name := fun e => h (by simp [names, e])
    have hrest : name ∉ names rest := fun hm => h (List.mem_cons_of_mem _ hm)
    simp [put, hn, ih hrest]

/-- Different names stay different. -/
theorem nodup_names_put {members : Members α} (h : members.names.Nodup) (name : String)
    (value : α) : (members.put name value).names.Nodup := by
  rw [names_put]
  split
  · exact h
  next hnew =>
    refine List.nodup_append.2 ⟨h, by simp, fun m hm other hother e => ?_⟩
    exact hnew (List.mem_singleton.1 hother ▸ e ▸ hm)

/-- No name is there twice. -/
theorem nodup_names_collapse (members : Members α) : members.collapse.names.Nodup := by
  have key : ∀ (members acc : Members α), acc.names.Nodup →
      (names (members.foldl (fun acc member => acc.put member.1 member.2) acc)).Nodup := by
    intro members
    induction members with
    | nil => exact fun acc h => h
    | cons member rest ih => exact fun acc h => ih _ (nodup_names_put h member.1 member.2)
  exact key members [] .nil

/-- Members whose names are all different stay as they are. -/
theorem collapse_eq_self {members : Members α} (h : members.names.Nodup) :
    members.collapse = members := by
  have key : ∀ (members acc : Members α), (names (acc ++ members)).Nodup →
      members.foldl (fun acc member => acc.put member.1 member.2) acc = acc ++ members := by
    intro members
    induction members with
    | nil => simp
    | cons member rest ih =>
      intro acc h
      have hnew : member.1 ∉ acc.names := by
        intro hm
        have h := h
        simp only [names, List.map_append, List.nodup_append] at h
        exact h.2.2 member.1 hm member.1 (by simp) rfl
      rw [List.foldl_cons, put_eq_append hnew, ih _ (by simpa using h)]
      simp
  exact key members [] h

/-! ## Rising names -/

/-- Whether every name stands before those after it in the order of their code points. -/
def Rising (members : Members α) : Prop :=
  members.names.Pairwise (· < ·)

theorem Rising.nodup {members : Members α} (h : members.Rising) : members.names.Nodup :=
  List.Pairwise.imp (fun hlt => String.ne_of_lt hlt) h

/-- The names are those there were and the new one. -/
theorem mem_names_putSorted {members : Members α} {name other : String} {value : α} :
    other ∈ (members.putSorted name value).names ↔ other = name ∨ other ∈ members.names := by
  simp only [mem_names_iff, find?_putSorted]
  by_cases h : name = other
  · simp [h]
  · simp [h, Ne.symm h]

/-- Names that rise go on rising. -/
theorem rising_putSorted {members : Members α} (h : members.Rising) (name : String) (value : α) :
    (members.putSorted name value).Rising := by
  induction members with
  | nil => simp [putSorted, Rising, names]
  | cons member rest ih =>
    obtain ⟨n, v⟩ := member
    have hrest : Rising rest := (List.pairwise_cons.1 h).2
    have hn : ∀ m ∈ names rest, n < m := (List.pairwise_cons.1 h).1
    by_cases hlt : name < n
    · simp only [putSorted, hlt, if_true]
      refine List.pairwise_cons.2 ⟨fun m hm => ?_, h⟩
      rcases List.mem_cons.1 hm with rfl | hm
      · exact hlt
      · exact String.lt_trans hlt (hn m hm)
    · by_cases he : n = name
      · subst he
        simp only [putSorted, hlt, if_true, if_false]
        exact h
      · simp only [putSorted, hlt, he, if_false]
        refine List.pairwise_cons.2 ⟨fun m hm => ?_, ih hrest⟩
        rcases mem_names_putSorted.1 hm with rfl | hm
        · exact Std.lt_of_le_of_ne (String.not_lt.1 hlt) he
        · exact hn m hm

/-- The names of sorted members rise. -/
theorem rising_sorted (members : Members α) : members.sorted.Rising := by
  have key : ∀ (members acc : Members α), acc.Rising →
      (members.foldl (fun acc member => acc.putSorted member.1 member.2) acc).Rising := by
    intro members
    induction members with
    | nil => exact fun acc h => h
    | cons member rest ih => exact fun acc h => ih _ (rising_putSorted h _ _)
  exact key members [] .nil

/-- A name after all others is put at the end. -/
theorem putSorted_eq_append {members : Members α} {name : String} {value : α}
    (h : ∀ n ∈ members.names, n < name) :
    members.putSorted name value = members ++ [(name, value)] := by
  induction members with
  | nil => rfl
  | cons member rest ih =>
    obtain ⟨n, v⟩ := member
    have hn : n < name := h n (by simp [names])
    have hrest : ∀ m ∈ names rest, m < name := fun m hm => h m (List.mem_cons_of_mem _ hm)
    have hne : n ≠ name := fun e => String.lt_irrefl n (by rw [e] at hn ⊢; exact hn)
    simp [putSorted, String.lt_asymm hn, hne, ih hrest]

/-- Members whose names rise are sorted already. -/
theorem sorted_eq_self {members : Members α} (h : members.Rising) : members.sorted = members := by
  have key : ∀ (members acc : Members α), Rising (acc ++ members) →
      members.foldl (fun acc member => acc.putSorted member.1 member.2) acc = acc ++ members := by
    intro members
    induction members with
    | nil => simp
    | cons member rest ih =>
      intro acc h
      have hlast : ∀ n ∈ acc.names, n < member.1 := by
        intro n hn
        have h := h
        simp only [Rising, names, List.map_append, List.pairwise_append] at h
        exact h.2.2 n hn member.1 (by simp)
      rw [List.foldl_cons, putSorted_eq_append hlast, ih _ (by simpa using h)]
      simp
  exact key members [] h

end Members

end NotionProject
