import NotionProject.Proofs.Decoding
import NotionProject.Proofs.NumberText

/-!
# Values as they are written

The text of a value is read token by token as it was written (`Json.list_compactChars`), and the
machine that reads it comes to one source (`Source.ofText_compact`), of which `Source.written` says
what is in it: the value, but with each number as it is read again, and with containers that cannot
be read where they are nested too deeply. That is shown for values and for the rest of a container
at once, by induction on the value: within open containers a value is put into the innermost one,
and the containers outside of it stay as they are (`Source.run_tokens`).

Passed over, every written value is in order (`Source.skip_written`). A value of which each number
is read again as it is, and no container is nested too deeply, is written as its source
(`Source.written_eq_ofJson`), so that its text is read as its canonical form
(`Json.ofText_compact_of_isReread`).
-/

namespace NotionProject

open Token (list)

/-! ## The tokens of a value -/

namespace Json

mutual

/-- The tokens of a value. -/
def tokens : Json → List Token
  | null => [.null]
  | bool b => [.bool b]
  | number n => [.number n.reread]
  | string s => [.string (.ok s)]
  | array items => .openArray :: itemTokens items
  | object members => .openObject :: memberTokens members

/-- The tokens of the items of an array, and of its end. -/
def itemTokens : List Json → List Token
  | [] => [.closeArray]
  | value :: rest => tokens value ++ moreItemTokens rest

/-- The tokens of the items after the first, and of the end of the array. -/
def moreItemTokens : List Json → List Token
  | [] => [.closeArray]
  | value :: rest => .comma :: (tokens value ++ moreItemTokens rest)

/-- The tokens of the members of an object, and of its end. -/
def memberTokens : List (String × Json) → List Token
  | [] => [.closeObject]
  | (name, value) :: rest => .string (.ok name) :: .colon :: (tokens value ++ moreMemberTokens rest)

/-- The tokens of the members after the first, and of the end of the object. -/
def moreMemberTokens : List (String × Json) → List Token
  | [] => [.closeObject]
  | (name, value) :: rest =>
    .comma :: .string (.ok name) :: .colon :: (tokens value ++ moreMemberTokens rest)

end

/-- Nothing that comes after an item or a member goes on with a number. -/
theorem ends_moreItemChars (items : List Json) (rest : List Char) :
    Numeral.Ends (moreItemChars items ++ rest) := by
  cases items <;> (rintro c ⟨⟩; decide)

theorem ends_moreMemberChars (members : List (String × Json)) (rest : List Char) :
    Numeral.Ends (moreMemberChars members ++ rest) := by
  rcases members with _ | ⟨⟨name, value⟩, members⟩ <;> (rintro c ⟨⟩; decide)

mutual

/-- A text is divided into the tokens of the value that it begins with. -/
theorem list_compactChars : ∀ (value : Json) {rest : List Char}, Numeral.Ends rest →
    list (compactChars value ++ rest) = tokens value ++ list rest
  | .null, rest, _ => Token.list_step rfl rfl
  | .bool true, rest, _ => Token.list_step rfl rfl
  | .bool false, rest, _ => Token.list_step rfl rfl
  | .number n, rest, h => Token.list_numberChars n h
  | .string s, rest, _ => Token.list_stringChars s rest
  | .array items, rest, _ => by
    rw [compactChars, List.cons_append, Token.list_openArray, list_itemChars items rest]
    rfl
  | .object members, rest, _ => by
    rw [compactChars, List.cons_append, Token.list_openObject, list_memberChars members rest]
    rfl

/-- The items of an array are read token by token, up to its end. -/
theorem list_itemChars : ∀ (items : List Json) (rest : List Char),
    list (itemChars items ++ rest) = itemTokens items ++ list rest
  | [], rest => Token.list_closeArray rest
  | value :: items, rest => by
    rw [itemChars, List.append_assoc, list_compactChars value (ends_moreItemChars items rest),
      list_moreItemChars items rest, itemTokens, List.append_assoc]

theorem list_moreItemChars : ∀ (items : List Json) (rest : List Char),
    list (moreItemChars items ++ rest) = moreItemTokens items ++ list rest
  | [], rest => Token.list_closeArray rest
  | value :: items, rest => by
    simp only [moreItemChars, moreItemTokens, List.cons_append, List.append_assoc]
    rw [Token.list_comma, list_compactChars value (ends_moreItemChars items rest),
      list_moreItemChars items rest]

/-- And so are the members of an object. -/
theorem list_memberChars : ∀ (members : List (String × Json)) (rest : List Char),
    list (memberChars members ++ rest) = memberTokens members ++ list rest
  | [], rest => Token.list_closeObject rest
  | (name, value) :: members, rest => by
    simp only [memberChars, memberTokens, List.cons_append, List.append_assoc]
    rw [Token.list_stringChars, Token.list_colon,
      list_compactChars value (ends_moreMemberChars members rest),
      list_moreMemberChars members rest]

theorem list_moreMemberChars : ∀ (members : List (String × Json)) (rest : List Char),
    list (moreMemberChars members ++ rest) = moreMemberTokens members ++ list rest
  | [], rest => Token.list_closeObject rest
  | (name, value) :: members, rest => by
    simp only [moreMemberChars, moreMemberTokens, List.cons_append, List.append_assoc]
    rw [Token.list_comma, Token.list_stringChars, Token.list_colon,
      list_compactChars value (ends_moreMemberChars members rest),
      list_moreMemberChars members rest]

end

end Json

namespace Source

/-! ## What is in the text -/

/-- A container within a number of others. -/
def nested (depth : Nat) (container : Source) : Source :=
  if depth < depthLimit then container else deep container

mutual

/-- The source of the text of a value within a number of containers. -/
def written (depth : Nat) : Json → Source
  | .null => null
  | .bool b => bool b
  | .number n => number n.reread
  | .string s => string (.ok s)
  | .array items => nested depth (array (writtenItems (depth + 1) items) none)
  | .object members => nested depth (object (writtenMembers (depth + 1) members) none)

/-- The sources of the items of an array. -/
def writtenItems (depth : Nat) : List Json → List Source
  | [] => []
  | value :: rest => written depth value :: writtenItems depth rest

/-- The sources of the members of an object. -/
def writtenMembers (depth : Nat) :
    List (String × Json) → List (Except TextError String × Source)
  | [] => []
  | (name, value) :: rest => (.ok name, written depth value) :: writtenMembers depth rest

end

/-! ## The machine -/

section Machine

variable {place next : Place} {frames frames' : List Frame} {token : Token}

theorem run_goOn (h : step place frames token = .goOn next frames') (rest : List Token) :
    run place frames (token :: rest) = run next frames' rest := by
  rw [run, h]

/-- At the place a token that is not out of place begins a value. -/
def Awaits (place : Place) (frames : List Frame) : Prop :=
  ∀ token, (∀ fault, opening token ≠ .fault fault) →
    step place frames token = stepValue frames token

theorem awaits_value (frames : List Frame) : Awaits .value frames :=
  fun _ _ => rfl

theorem awaits_firstItem (items : List Source) (frames : List Frame) :
    Awaits .firstItem (.array items :: frames) := by
  intro token h
  cases token with
  | closeArray => exact absurd rfl (h _)
  | _ => rfl

theorem awaits_nextItem (frames : List Frame) : Awaits .nextItem frames := by
  intro token h
  cases token with
  | closeArray => exact absurd rfl (h _)
  | _ => rfl

/-- A token that is a whole value. -/
theorem run_single {value : Source} (h : Awaits place frames)
    (hvalue : opening token = .value value) (rest : List Token) :
    run place frames (token :: rest) = run (.after value) frames rest := by
  refine run_goOn ?_ rest
  rw [h token (by simp [hvalue]), stepValue, hvalue]

/-- A token that begins a container. -/
theorem run_opening {frame : Frame} (h : Awaits place frames)
    (hframe : opening token = .container frame next) (rest : List Token) :
    run place frames (token :: rest) = run next (frame :: frames) rest := by
  refine run_goOn ?_ rest
  rw [h token (by simp [hframe]), stepValue, hframe]

end Machine

mutual

/-- The tokens of a value are read as the value, within the same open containers. -/
theorem run_tokens : ∀ (value : Json) {place : Place} {frames : List Frame},
    Awaits place frames → ∀ rest : List Token, run place frames (value.tokens ++ rest) =
      run (.after (written frames.length value)) frames rest
  | .null, _, _, h, rest => run_single h rfl rest
  | .bool _, _, _, h, rest => run_single h rfl rest
  | .number _, _, _, h, rest => run_single h rfl rest
  | .string _, _, _, h, rest => run_single h rfl rest
  | .array items, _, frames, h, rest => by
    rw [Json.tokens, List.cons_append, run_opening h rfl, run_itemTokens items frames rest, written]
  | .object members, _, frames, h, rest => by
    rw [Json.tokens, List.cons_append, run_opening h rfl, run_memberTokens members frames rest,
      written]

theorem run_itemTokens : ∀ (items : List Json) (frames : List Frame) (rest : List Token),
    run .firstItem (.array [] :: frames) (Json.itemTokens items ++ rest) =
      run (.after (nested frames.length
        (array (writtenItems (frames.length + 1) items) none))) frames rest
  | [], _, rest => run_goOn rfl rest
  | value :: items, frames, rest => by
    rw [Json.itemTokens, List.append_assoc, run_tokens value (awaits_firstItem [] frames),
      run_moreItemTokens items, writtenItems]
    rfl

/-- The items before the last one are known, last first. -/
theorem run_moreItemTokens : ∀ (items : List Json) (before : List Source) (last : Source)
    (frames : List Frame) (rest : List Token),
    run (.after last) (.array before :: frames) (Json.moreItemTokens items ++ rest) =
      run (.after (nested frames.length
        (array (before.reverse ++ last :: writtenItems (frames.length + 1) items) none)))
        frames rest
  | [], before, last, frames, rest => by
    rw [writtenItems, ← List.reverse_cons]
    exact run_goOn rfl rest
  | value :: items, before, last, frames, rest => by
    rw [Json.moreItemTokens, List.cons_append, List.append_assoc, run_goOn rfl,
      run_tokens value (awaits_nextItem _), run_moreItemTokens items, writtenItems,
      List.reverse_cons, List.append_assoc, List.singleton_append]
    rfl

theorem run_memberTokens : ∀ (members : List (String × Json)) (frames : List Frame)
    (rest : List Token),
    run .firstName (.object [] :: frames) (Json.memberTokens members ++ rest) =
      run (.after (nested frames.length
        (object (writtenMembers (frames.length + 1) members) none))) frames rest
  | [], _, rest => run_goOn rfl rest
  | (name, value) :: members, frames, rest => by
    simp only [Json.memberTokens, List.cons_append, List.append_assoc]
    rw [run_goOn rfl, run_goOn rfl, run_tokens value (awaits_value _), run_moreMemberTokens members,
      writtenMembers]
    rfl

/-- The members before the last one are known, last first. -/
theorem run_moreMemberTokens : ∀ (members : List (String × Json))
    (before : List (Except TextError String × Source)) (name : Except TextError String)
    (last : Source) (frames : List Frame) (rest : List Token),
    run (.after last) (.member name before :: frames) (Json.moreMemberTokens members ++ rest) =
      run (.after (nested frames.length (object (before.reverse ++ (name, last) ::
        writtenMembers (frames.length + 1) members) none))) frames rest
  | [], before, name, last, frames, rest => by
    rw [writtenMembers, ← List.reverse_cons]
    exact run_goOn rfl rest
  | (other, value) :: members, before, name, last, frames, rest => by
    simp only [Json.moreMemberTokens, List.cons_append, List.append_assoc]
    rw [run_goOn rfl, run_goOn rfl, run_goOn rfl, run_tokens value (awaits_value _),
      run_moreMemberTokens members, writtenMembers, List.reverse_cons, List.append_assoc,
      List.singleton_append]
    rfl

end

/-- The source of the text of a value. -/
theorem ofText_compact (value : Json) : ofText value.compact = (written 0 value, false) := by
  have htokens : list value.compact.toList = value.tokens := by
    have hlist := value.list_compactChars Numeral.ends_nil
    rw [List.append_nil, Token.list, List.append_nil] at hlist
    rw [Json.compact, String.toList_ofList, hlist]
  have hrun := run_tokens value (awaits_value []) []
  rw [List.append_nil] at hrun
  rw [ofText, htokens, hrun]
  rfl

/-! ## Passing over it -/

/-- Passing over a container does not mind how deep it is. -/
theorem skip_nested (depth : Nat) (container : Source) :
    (nested depth container).skip = container.skip := by
  unfold nested
  split <;> rfl

mutual

/-- Nothing goes wrong in a written value when it is passed over, however deeply it is nested. -/
theorem skip_written : ∀ (depth : Nat) (value : Json), (written depth value).skip = .ok ()
  | _, .null => rfl
  | _, .bool _ => rfl
  | _, .number _ => rfl
  | _, .string _ => rfl
  | depth, .array items => by
    rw [written, skip_nested, skip, skipItems_written]
    rfl
  | depth, .object members => by
    rw [written, skip_nested, skip, skipMembers_written]
    rfl

theorem skipItems_written : ∀ (depth : Nat) (items : List Json),
    skipItems (writtenItems depth items) = .ok ()
  | _, [] => rfl
  | depth, value :: rest => by
    rw [writtenItems, skipItems, skip_written depth value, skipItems_written depth rest]
    rfl

theorem skipMembers_written : ∀ (depth : Nat) (members : List (String × Json)),
    skipMembers (writtenMembers depth members) = .ok ()
  | _, [] => rfl
  | depth, (name, value) :: rest => by
    rw [writtenMembers, skipMembers, skip_written depth value, skipMembers_written depth rest]
    rfl

end

end Source

/-! ## Reading it -/

namespace Json

mutual

/-- Each number in the value is read again as it is, and within a number of containers no container
is nested too deeply. -/
def IsReread (depth : Nat) : Json → Prop
  | null => True
  | bool _ => True
  | number n => n.reread = .ok n
  | string _ => True
  | array items => depth < Source.depthLimit ∧ ItemsReread (depth + 1) items
  | object members => depth < Source.depthLimit ∧ MembersReread (depth + 1) members

/-- That holds of each item. -/
def ItemsReread (depth : Nat) : List Json → Prop
  | [] => True
  | value :: rest => IsReread depth value ∧ ItemsReread depth rest

/-- That holds of the value of each member. -/
def MembersReread (depth : Nat) : List (String × Json) → Prop
  | [] => True
  | (_, value) :: rest => IsReread depth value ∧ MembersReread depth rest

end

theorem itemsReread_iff {depth : Nat} {items : List Json} :
    ItemsReread depth items ↔ ∀ value ∈ items, value.IsReread depth := by
  induction items with
  | nil => simp [ItemsReread]
  | cons value rest ih => simp [ItemsReread, ih]

theorem membersReread_iff {depth : Nat} {members : Members Json} :
    MembersReread depth members ↔ ∀ member ∈ members, member.2.IsReread depth := by
  induction members with
  | nil => simp [MembersReread]
  | cons member rest ih => simp [MembersReread, ih]

end Json

namespace Source

mutual

/-- Such a value is written as its source. -/
theorem written_eq_ofJson : ∀ {depth : Nat} {value : Json}, value.IsReread depth →
    written depth value = ofJson value
  | _, .null, _ => rfl
  | _, .bool _, _ => rfl
  | _, .number n, h => congrArg number h
  | _, .string _, _ => rfl
  | depth, .array items, h => by
    rw [written, nested, if_pos h.1, writtenItems_eq_ofItems h.2, ofJson]
  | depth, .object members, h => by
    rw [written, nested, if_pos h.1, writtenMembers_eq_ofMembers h.2, ofJson]

theorem writtenItems_eq_ofItems : ∀ {depth : Nat} {items : List Json},
    Json.ItemsReread depth items → writtenItems depth items = ofItems items
  | _, [], _ => rfl
  | _, value :: rest, h => by
    rw [writtenItems, written_eq_ofJson h.1, writtenItems_eq_ofItems h.2, ofItems]

theorem writtenMembers_eq_ofMembers : ∀ {depth : Nat} {members : List (String × Json)},
    Json.MembersReread depth members → writtenMembers depth members = ofMembers members
  | _, [], _ => rfl
  | _, (name, value) :: rest, h => by
    rw [writtenMembers, written_eq_ofJson h.1, writtenMembers_eq_ofMembers h.2, ofMembers]

end

end Source

variable {α : Type} {value : Json}

/-- Every decoder reads the text of a value as it reads what is written there. -/
theorem Decoder.ofText_compact (decode : Decoder α) (value : Json) :
    ofText decode value.compact = decode (.written 0 value) := by
  rw [ofText, Source.ofText_compact]
  dsimp only
  cases decode (.written 0 value) <;> rfl

theorem Json.ofText_compact (value : Json) :
    ofText value.compact = (Source.written 0 value).toJson := by
  rw [ofText, Source.ofText_compact]
  dsimp only
  cases (Source.written 0 value).toJson <;> rfl

/-- If each number is read again, and nothing is nested too deeply, the text is read as the
canonical form of the value. -/
theorem Json.ofText_compact_of_isReread (h : value.IsReread 0) :
    ofText value.compact = .ok value.canonical := by
  rw [ofText_compact, Source.written_eq_ofJson h, Source.toJson_ofJson]

/-! ## Objects -/

/-- There are related elements for all just if there is one for each. -/
theorem exists_forall₂_iff {β : Type} {r : α → β → Prop} {xs : List α} :
    (∃ ys, List.Forall₂ r xs ys) ↔ ∀ x ∈ xs, ∃ y, r x y := by
  induction xs with
  | nil => simp
  | cons x xs ih =>
    rw [List.forall_mem_cons, ← ih]
    simp only [List.forall₂_cons_left_iff]
    exact ⟨fun ⟨_, y, ys, h, hs, _⟩ => ⟨⟨y, h⟩, ys, hs⟩,
      fun ⟨⟨y, h⟩, ys, hs⟩ => ⟨_, y, ys, h, hs, rfl⟩⟩

namespace Source

open Fields (readable)

/-- The names that are written can all be read. -/
theorem writtenMembers_eq (depth : Nat) (members : Members Json) :
    writtenMembers depth members = readable (members.mapValues (written depth)) := by
  induction members with
  | nil => rfl
  | cons member rest ih => rw [writtenMembers, ih]; rfl

/-- The text of an object has its members, within one container. -/
theorem written_object (members : Members Json) :
    written 0 (.object members) = .object (readable (members.mapValues (written 1))) none := by
  rw [written, writtenMembers_eq]
  rfl

/-- Members are read if each value is, under the same names. -/
theorem membersToJson_readable {members : Members Source} {values : Members Json} :
    membersToJson (readable members) = .ok values ↔
      List.Forall₂ (fun member entry => member.1 = entry.1 ∧ member.2.toJson = .ok entry.2)
        members values := by
  induction members generalizing values with
  | nil => simp [readable, membersToJson, eq_comm]
  | cons member rest ih =>
    rw [readable, List.map_cons, ← readable, membersToJson]
    constructor
    · intro h
      obtain ⟨_, ⟨⟩, h⟩ := bind_eq_ok_iff.1 h
      obtain ⟨value, hvalue, h⟩ := bind_eq_ok_iff.1 h
      obtain ⟨others, hothers, h⟩ := bind_eq_ok_iff.1 h
      cases h
      exact .cons ⟨rfl, hvalue⟩ (ih.1 hothers)
    · rintro (- | ⟨⟨hname, hvalue⟩, hothers⟩)
      refine bind_eq_ok_iff.2 ⟨_, rfl, bind_eq_ok_iff.2 ⟨_, hvalue,
        bind_eq_ok_iff.2 ⟨_, ih.2 hothers, ?_⟩⟩⟩
      rw [hname]
      rfl

/-- Members can be read if each of them can. -/
theorem exists_membersToJson_readable_iff {members : Members Source} :
    (∃ values, membersToJson (readable members) = .ok values) ↔
      ∀ member ∈ members, member.2.IsReadable := by
  simp only [membersToJson_readable]
  rw [exists_forall₂_iff]
  refine forall₂_congr fun member _ => ?_
  exact ⟨fun ⟨entry, _, h⟩ => ⟨entry.2, h⟩, fun ⟨json, h⟩ => ⟨(member.1, json), rfl, h⟩⟩

end Source

/-- What an object is read as from its text: its members as they are read, their names rising. -/
theorem Json.ofText_object_eq_ok_iff {members : Members Json} {json : Json} :
    ofText (object members).compact = .ok json ↔
      ∃ values : Members Json, List.Forall₂ (fun member entry => member.1 = entry.1 ∧
          (Source.written 1 member.2).toJson = .ok entry.2) members values ∧
        json = .object values.sorted := by
  rw [ofText_compact, Source.written_object, Source.toJson, bind_eq_ok_iff]
  refine exists_congr fun values => ?_
  rw [Source.membersToJson_readable, Members.mapValues, List.forall₂_map_left_iff]
  refine and_congr_right fun _ => ?_
  constructor
  · intro h
    cases h
    rfl
  · rintro rfl
    rfl

end NotionProject
