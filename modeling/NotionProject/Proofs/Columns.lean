import NotionProject.Proofs.Titles
import Mathlib.Data.Finset.Card

/-!
# The columns of a schema

A schema is built by one call after the other, and a call may name a column that was named before.
What one call changes is known for members in order (`Members.names_put`, `Members.find?_put`), and
by induction from the last call it follows what a whole series of calls comes to
(`Schema.isBuilt_build`): each name once, in the order of first use, with the specification that was
given last. The body that creates a database has the same members in the same order
(`Schema.build_keeps_last`).
-/

namespace NotionProject

open Members

namespace Schema

variable {columns : Members ColumnSpec} {name : String}

/-! ## The last specification -/

/-- The specification is the last one that was given under the name. -/
def IsLast (columns : Members ColumnSpec) (name : String) (spec : ColumnSpec) : Prop :=
  ∃ before after, columns = before ++ (name, spec) :: after ∧ name ∉ names after

/-- After one call more, the last specification of its name is the new one, and for other names it
is what it was. -/
theorem isLast_concat {other : String} {spec spec' : ColumnSpec} :
    IsLast (columns ++ [(other, spec')]) name spec ↔
      (other = name ∧ spec' = spec) ∨ other ≠ name ∧ IsLast columns name spec := by
  constructor
  · rintro ⟨before, after, hsplit, hafter⟩
    rcases List.eq_nil_or_concat after with rfl | ⟨after, last, rfl⟩
    · obtain ⟨-, hlast⟩ := List.append_inj' hsplit rfl
      obtain ⟨hname, hspec⟩ := Prod.mk.inj (List.singleton_inj.1 hlast)
      exact Or.inl ⟨hname, hspec⟩
    · have hconcat : columns ++ [(other, spec')] = (before ++ (name, spec) :: after) ++ [last] := by
        simpa using hsplit
      obtain ⟨hcolumns, hlast⟩ := List.append_inj' hconcat rfl
      obtain rfl := List.singleton_inj.1 hlast
      have hnot : name ∉ names after ∧ name ≠ other := by simpa [names] using hafter
      exact Or.inr ⟨hnot.2.symm, before, after, hcolumns, hnot.1⟩
  · rintro (⟨rfl, rfl⟩ | ⟨hne, before, after, rfl, hafter⟩)
    · exact ⟨columns, [], rfl, List.not_mem_nil⟩
    · refine ⟨before, after ++ [(other, spec')], by simp, ?_⟩
      simpa [names, hne.symm] using hafter

/-! ## One call and a series of calls -/

theorem get?_put (schema : Schema) (name other : String) (spec : ColumnSpec) :
    (schema.put name spec).get? other =
      if name = other then some spec.toJson else schema.get? other :=
  find?_put schema.specs name other spec.toJson

/-- The last call of a series is made on what the calls before it come to. -/
theorem build_concat (columns : Members ColumnSpec) (name : String) (spec : ColumnSpec) :
    build (columns ++ [(name, spec)]) = (build columns).put name spec :=
  List.foldl_append ..

/-- Under a name stands the specification that was given last. -/
theorem get?_build {json : Json} : (build columns).get? name = some json ↔
    ∃ spec, IsLast columns name spec ∧ spec.toJson = json := by
  induction columns using List.reverseRecOn with
  | nil => simp [build, empty, get?, find?, IsLast]
  | append_singleton columns column ih =>
    obtain ⟨other, spec'⟩ := column
    rw [build_concat, get?_put]
    by_cases h : other = name
    · simp [h, isLast_concat]
    · simp [h, isLast_concat, ih]

/-- No name stands twice, however often it was used. -/
theorem nodup_names_build (columns : Members ColumnSpec) : (build columns).specs.names.Nodup := by
  induction columns using List.reverseRecOn with
  | nil => exact .nil
  | append_singleton columns column ih =>
    rw [build_concat]
    exact nodup_names_put ih column.1 column.2.toJson

/-- The names stand in the order of their first use. -/
theorem names_build (columns : Members ColumnSpec) :
    (build columns).specs.names = columns.names.eraseDups := by
  induction columns using List.reverseRecOn with
  | nil => rfl
  | append_singleton columns column ih =>
    have hnames : names (columns ++ [column]) = names columns ++ [column.1] := by simp [names]
    rw [build_concat, put, names_put, ih, hnames, List.eraseDups_append]
    by_cases h : column.1 ∈ names columns <;> simp [h, List.removeAll, List.eraseDups_cons]

/-! ## The schema as a whole -/

/-- The members are the columns: each name once, in the order of first use, with the specification
that was given last. -/
structure ListsOnce (columns : Members ColumnSpec) (members : Members Json) : Prop where
  names_eq : members.names = columns.names.eraseDups
  nodup : members.names.Nodup
  mem_iff : ∀ name json, (name, json) ∈ members ↔
    ∃ spec, IsLast columns name spec ∧ spec.toJson = json

/-- The schema is what a series of calls comes to: in its size, in what is found in it and in what
is written of it. -/
structure IsBuilt (columns : Members ColumnSpec) (schema : Schema) : Prop where
  size_eq : schema.size = columns.names.toFinset.card
  isEmpty_iff : schema.isEmpty = true ↔ columns = []
  get?_eq_some_iff : ∀ name json, schema.get? name = some json ↔
    ∃ spec, IsLast columns name spec ∧ spec.toJson = json
  get?_eq_none_iff : ∀ name, schema.get? name = none ↔ name ∉ columns.names
  written : ∃ members, schema.toJson = .object members ∧ ListsOnce columns members

theorem listsOnce_build (columns : Members ColumnSpec) :
    ListsOnce columns (build columns).specs where
  names_eq := names_build columns
  nodup := nodup_names_build columns
  mem_iff name json := by
    rw [← find?_eq_some_iff (nodup_names_build columns)]
    exact get?_build

/-- There are as many columns as there are different names. -/
theorem size_build (columns : Members ColumnSpec) :
    (build columns).size = columns.names.toFinset.card := by
  have hset : columns.names.toFinset = (build columns).specs.names.toFinset := by
    ext name
    simp [names_build]
  rw [hset, List.toFinset_card_of_nodup (nodup_names_build columns), names, List.length_map, size]

theorem isBuilt_build (columns : Members ColumnSpec) : IsBuilt columns (build columns) where
  size_eq := size_build columns
  isEmpty_iff := by
    have hcard : (build columns).isEmpty = true ↔ (build columns).size = 0 := by
      rw [isEmpty, size, List.isEmpty_iff, List.length_eq_zero_iff]
    rw [hcard, size_build, Finset.card_eq_zero, List.toFinset_eq_empty_iff, names,
      List.map_eq_nil_iff]
  get?_eq_some_iff name json := get?_build
  get?_eq_none_iff name := by
    rw [get?, find?_eq_none_iff, names_build, List.mem_eraseDups]
  written := ⟨_, rfl, listsOnce_build columns⟩

/-- A schema keeps of each column what was specified last. Whatever calls it is built by, its size,
what is found in it and what is written of it agree in that, and every request to create a database
with it sends the columns so. -/
theorem build_keeps_last (columns : Members ColumnSpec) :
    IsBuilt columns (build columns) ∧
    ∀ (project : Project) (parent : Identifier) (title : String) (server : Server),
      ∀ request ∈ ((project.createDatabase parent title (build columns)).run server).requests,
        ∃ body members, request.body = some body ∧ request.bodyText? = some body.compact ∧
          body.member? "properties" = some (.object members) ∧ ListsOnce columns members := by
  refine ⟨isBuilt_build columns, fun project parent title server request hm => ?_⟩
  have hbody := project.body_of_createDatabase parent title (build columns) server request hm
  exact ⟨_, _, hbody, congrArg (Option.map Json.compact) hbody, rfl, listsOnce_build columns⟩

/-- A column that is specified twice, with another one between. -/
def sampleColumns : Members ColumnSpec :=
  [("Kind", .select ["a"]), ("Name", .title), ("Kind", .uniqueId none)]

/-- It stays in the first place and is sent as it was specified last. -/
theorem build_keeps_last_sample :
    (build sampleColumns).size = 2 ∧ (build sampleColumns).isEmpty = false ∧
    ∃ (request : Request) (body : Json),
      ((Project.createDatabase ⟨.ofRandom 0, .sample "http://h/v1"⟩ (.ofRandom 1) "A"
        (build sampleColumns)).run (.scripted [])).requests = [request] ∧
      request.bodyText? = some body.compact ∧
      ∃ members : Members Json, body.member? "properties" = some (.object members) ∧
        members.names = ["Kind", "Name"] ∧
        ("Kind", .object [("unique_id", .object [("prefix", .null)])]) ∈ members := by
  obtain ⟨hbuilt, hsent⟩ := build_keeps_last sampleColumns
  refine ⟨hbuilt.size_eq, ?_, ?_⟩
  · rw [← Bool.not_eq_true, hbuilt.isEmpty_iff]
    exact List.cons_ne_nil _ _
  · have hone : ((Project.createDatabase ⟨.ofRandom 0, .sample "http://h/v1"⟩ (.ofRandom 1) "A"
        (build sampleColumns)).run (.scripted [])).requests.length = 1 := by decide +kernel
    obtain ⟨request, hrequest⟩ := List.length_eq_one_iff.1 hone
    obtain ⟨body, members, -, htext, hmember, hlists⟩ := hsent ⟨.ofRandom 0, .sample "http://h/v1"⟩
      (.ofRandom 1) "A" (.scripted []) request (by rw [hrequest]; exact List.mem_singleton_self _)
    refine ⟨request, body, hrequest, htext, members, hmember, hlists.names_eq, ?_⟩
    have hlast : IsLast sampleColumns "Kind" (.uniqueId none) :=
      ⟨[("Kind", .select ["a"]), ("Name", .title)], [], rfl, List.not_mem_nil⟩
    exact (hlists.mem_iff _ _).2 ⟨_, hlast, rfl⟩

end Schema

end NotionProject
