import NotionProject.Decode.Record

/-!
# What was read

Results of decoders taken apart: what a result of several steps says of each step
(`bind_eq_ok_iff`), that every value of a map was read by itself (`Decoder.exists_read_of_mem`),
and that an object that was read as any value has its names in rising order
(`Source.rising_of_toJson`). A record was put together from its fields, whether it stands as an
object or as an array (`Fields.exists_build_of_decode`).
-/

namespace NotionProject

variable {α β : Type}

/-- Two steps have a result if the first one has one and the second one has one with it. -/
theorem bind_eq_ok_iff {ε : Type} {first : Except ε α} {next : α → Except ε β} {value : β} :
    (first >>= next) = .ok value ↔ ∃ x, first = .ok x ∧ next x = .ok value := by
  cases first <;> simp [bind, Except.bind]

/-- Two steps fail if the first one does, or if the second one does with the result of the first. -/
theorem bind_eq_error_iff {ε : Type} {first : Except ε α} {next : α → Except ε β} {error : ε} :
    (first >>= next) = .error error ↔
      first = .error error ∨ ∃ x, first = .ok x ∧ next x = .error error := by
  cases first <;> simp [bind, Except.bind]

theorem map_eq_ok_iff {ε : Type} {first : Except ε α} {f : α → β} {value : β} :
    first.map f = .ok value ↔ ∃ x, first = .ok x ∧ f x = value := by
  cases first <;> simp [Except.map]

theorem map_eq_error_iff {ε : Type} {first : Except ε α} {f : α → β} {error : ε} :
    first.map f = .error error ↔ first = .error error := by
  cases first <;> simp [Except.map]

theorem toOption_eq_some_iff {ε : Type} {read : Except ε α} {value : α} :
    read.toOption = some value ↔ read = .ok value := by
  cases read <;> simp [Except.toOption]

theorem ofTextError_eq_ok_iff {read : Except TextError α} {value : α} :
    ofTextError read = .ok value ↔ read = .ok value := by
  cases read <;> simp [ofTextError]

namespace Source

/-- An object that is read as any value has its names in rising order. -/
theorem rising_of_toJson {source : Source} {members : List (String × Json)}
    (h : source.toJson = .ok (.object members)) : Members.Rising members := by
  cases source with
  | object sources fault =>
    rw [toJson] at h
    obtain ⟨values, -, h⟩ := bind_eq_ok_iff.1 h
    obtain ⟨-, -, h⟩ := bind_eq_ok_iff.1 h
    cases h
    exact Members.rising_sorted values
  | array items fault =>
    rw [toJson] at h
    obtain ⟨values, -, h⟩ := bind_eq_ok_iff.1 h
    obtain ⟨-, -, h⟩ := bind_eq_ok_iff.1 h
    cases h
  | number n => cases n <;> cases h
  | string s => cases s <;> cases h
  | null => cases h
  | bool b => cases h
  | deep container => cases h
  | broken fault => cases h

end Source

namespace Decoder

variable {decode : Decoder α}

theorem exists_read_of_mem_entries :
    ∀ {sources : List (Except TextError String × Source)} {values : Members α},
      entries decode sources = .ok values → ∀ member ∈ values,
        ∃ source, decode source = .ok member.2
  | [], values, h, member, hm => by
    cases h
    cases hm
  | (name, source) :: rest, values, h, member, hm => by
    obtain ⟨name, -, h⟩ := bind_eq_ok_iff.1 h
    obtain ⟨value, hv, h⟩ := bind_eq_ok_iff.1 h
    obtain ⟨others, ho, h⟩ := bind_eq_ok_iff.1 h
    cases h
    rcases List.mem_cons.1 hm with rfl | hm
    · exact ⟨source, hv⟩
    · exact exists_read_of_mem_entries ho member hm

/-- Every value of a map was read. -/
theorem exists_read_of_mem {source : Source} {values : Members α}
    (h : map decode source = .ok values) :
    ∀ member ∈ values, ∃ source, decode source = .ok member.2 := by
  unfold map at h
  split at h
  · obtain ⟨entries, he, h⟩ := bind_eq_ok_iff.1 h
    obtain ⟨-, -, h⟩ := bind_eq_ok_iff.1 h
    cases h
    exact fun member hm => exists_read_of_mem_entries he member (Members.mem_of_mem_collapse hm)
  · cases h
  · cases h

end Decoder

/-! ## Records -/

/-- What a source has for a field of a record: the member of that name, or the item in that
place. -/
def Source.field? (name : String) (place : Nat) : Source → Option Source
  | object members _ => Members.find? (Fields.named members) name
  | array items _ => items[place]?
  | _ => none

namespace Fields

variable {given : Given} {place : Nat}

@[simp] theorem build_map_eq_ok_iff {f : α → β} {fields : Fields α} {value : β} :
    (f <$> fields).build given place = .ok value ↔
      ∃ x, fields.build given place = .ok x ∧ f x = value :=
  map_eq_ok_iff

/-- The fields of the second description come after those of the first one. -/
@[simp] theorem build_seq_eq_ok_iff {f : Fields (α → β)} {x : Fields α} {value : β} :
    (f <*> x).build given place = .ok value ↔ ∃ g y, f.build given place = .ok g ∧
      x.build given (place + f.checks.length) = .ok y ∧ g y = value := by
  change (f.build given place >>= fun g => x.build given (place + f.checks.length) >>= fun y =>
    pure (g y)) = .ok value ↔ _
  simp only [bind_eq_ok_iff, pure, Except.pure, Except.ok.injEq, exists_and_left]

/-- A field that may be missing has its default then, and else what was read. -/
theorem of_build_optional {name : String} {default value : α} {decode : Decoder α}
    (h : (optional name default decode).build given place = .ok value) :
    (given.find? name place = none ∧ value = default) ∨
      ∃ source, given.find? name place = some source ∧ decode source = .ok value := by
  simp only [optional, field] at h
  cases hfind : given.find? name place with
  | some source =>
    rw [hfind] at h
    exact Or.inr ⟨source, rfl, h⟩
  | none =>
    rw [hfind] at h
    refine Or.inl ⟨rfl, ?_⟩
    cases given with
    | byName members => exact (Except.ok.inj h).symm
    | byPlace items fault expected =>
      obtain ⟨-, -, h⟩ := bind_eq_ok_iff.1 h
      exact (Except.ok.inj h).symm

/-- A record that was read was put together from what its source has for its fields. -/
theorem exists_build_of_decode {fields : Fields α} {name : String} {source : Source} {value : α}
    (h : fields.decode name source = .ok value) :
    ∃ given : Given, (∀ name place, given.find? name place = source.field? name place) ∧
      fields.build given 0 = .ok value := by
  unfold decode at h
  split at h
  · next members fault =>
    obtain ⟨-, -, h⟩ := bind_eq_ok_iff.1 h
    obtain ⟨-, -, h⟩ := bind_eq_ok_iff.1 h
    exact ⟨.byName (named members), fun _ _ => rfl, h⟩
  · next items fault =>
    obtain ⟨built, hbuilt, h⟩ := bind_eq_ok_iff.1 h
    split at h
    · cases h
    · obtain ⟨-, -, h⟩ := bind_eq_ok_iff.1 h
      cases h
      exact ⟨.byPlace items fault _, fun _ _ => rfl, hbuilt⟩
  · cases h
  · cases h

end Fields

end NotionProject
