import NotionProject.Proofs.LongCursor
import NotionProject.Records
import Mathlib.Data.List.Forall2

/-!
# Paging

What one step of a walk can do (`follow_error`, `follow_last`, `follow_goOn`), and from that
what a whole walk comes to.

`Delivers` says of replies that they hold a list in parts: each reply carries a part, each part
but the last one goes on, and every part can be asked for. Against such replies a walk asks
once for each part, first without a cursor and then with the one that the part before
names, has all items in their order, and leaves the replies after the last part
(`comesTo_all`), and no others give a walk a value (`all_ok_iff`). A part that cannot be asked
for ends the walk (`comesTo_follow_short`); this happens at a cursor that is too long for a URL
(`stops_at_long_cursor`).
-/

namespace NotionProject

variable {α : Type}

namespace Listing

/-- The part says that there is no more, or does not say where. -/
def IsLast (listing : Listing α) : Prop :=
  listing.hasMore = false ∨ listing.nextCursor = none

theorem continuation?_eq_none_iff {listing : Listing α} :
    listing.continuation? = none ↔ listing.IsLast := by
  unfold continuation? IsLast
  cases listing.hasMore <;> simp

/-- A part that goes on does so at the cursor that it names. -/
theorem continuation?_of_not_isLast {listing : Listing α} (h : ¬listing.IsLast) :
    listing.continuation? = listing.nextCursor := by
  rw [IsLast, not_or] at h
  simp [continuation?, h.1]

end Listing

namespace Walk

variable {client : Client} {ask : Request α} {decode : Decoder (Listing α)}

/-! ## One step -/

section Step

variable {replies : List Reply} {number : Nat} {cursor : Option String} {listing : Listing α}
  {requests : List NotionProject.Request} {server left : Server}

/-- Asking for a part comes to what performing its exchange comes to. -/
theorem comesTo_fetch {outcome : Except Failure (Listing α)} (number : Nat)
    (h : ((client.perform (ask cursor)).run server).ComesTo outcome requests left) :
    ((fetch client ask number cursor).run server).ComesTo outcome requests left := by
  unfold fetch
  cases outcome with
  | error failure => exact h.bind_error
  | ok listing =>
    exact h.andFinally ((Call.comesTo_log _ _ left).after (Call.comesTo_pure listing left))

/-- A part that is not had ends the walk with its failure. -/
theorem follow_error {failure : Failure}
    (h : ((client.perform (ask cursor)).run (.scripted replies)).ComesTo (.error failure) requests
      left) :
    (follow client ask replies number cursor).ComesTo (.error failure) requests left := by
  have hf := comesTo_fetch number h
  cases replies with
  | nil => exact hf.bind_error
  | cons reply rest => exact hf.bind_error

/-- The walk is over with a part that is the last one. -/
theorem follow_last (number : Nat)
    (h : ((client.perform (ask cursor)).run (.scripted replies)).ComesTo (.ok listing) requests
      left)
    (hlast : listing.IsLast) :
    (follow client ask replies number cursor).ComesTo (.ok (single number listing)) requests
      left := by
  have hf := comesTo_fetch number h
  cases replies with
  | nil => exact hf.andFinally (Call.comesTo_pure _ _)
  | cons reply rest =>
    refine hf.andFinally ?_
    simp only [Listing.continuation?_eq_none_iff.2 hlast]
    exact Call.comesTo_pure _ _

/-- After any other part the walk goes on at the cursor that the part names. -/
theorem follow_goOn {reply : Reply} {rest : List Reply}
    (h : ((client.perform (ask cursor)).run (.scripted (reply :: rest))).ComesTo (.ok listing)
      requests (.scripted rest))
    (hlast : ¬listing.IsLast) {outcome : Except Failure (Walk α)}
    {others : List NotionProject.Request}
    (hrest : (follow client ask rest (number + 1) listing.nextCursor).ComesTo outcome others left) :
    (follow client ask (reply :: rest) number cursor).ComesTo (outcome.map (goOn listing))
      (requests ++ others) left := by
  refine (comesTo_fetch number h).bind ?_
  obtain ⟨next, hnext⟩ : ∃ next, listing.nextCursor = some next :=
    Option.ne_none_iff_exists'.1 fun hn => hlast (Or.inr hn)
  rw [hnext] at hrest
  simp only [Listing.continuation?_of_not_isLast hlast, hnext]
  exact ⟨by rw [← hrest.outcome_eq], hrest.requests_eq, hrest.server_eq⟩

end Step

/-! ## A whole list -/

/-- The cursors at which the parts of a list are asked for, of which the first one is given:
each other one is named by the part before it. -/
def cursors (first : Option String) : List (Listing α) → List (Option String)
  | [] => []
  | part :: rest => first :: cursors part.nextCursor rest

/-- The cursors depend on nothing but where the parts go on. -/
theorem cursors_congr : ∀ {parts others : List (Listing α)} (first : Option String),
    parts.map Listing.nextCursor = others.map Listing.nextCursor →
    cursors first parts = cursors first others
  | [], [], _, _ => rfl
  | part :: rest, other :: others, first, h => by
    obtain ⟨hnext, hrest⟩ := List.cons.inj h
    rw [cursors, cursors, hnext, cursors_congr _ hrest]

/-- The replies hold a list in parts, asked for from a cursor on: each reply carries a part,
every part can be asked for, and only the last one is a last part. -/
structure Delivers (client : Client) (ask : Request α) (decode : Decoder (Listing α))
    (first : Option String) (replies : List Reply) (parts : List (Listing α)) : Prop where
  carried : List.Forall₂ (Reply.Carries decode) replies parts
  sent : ∀ cursor ∈ cursors first parts, (client.sent? (ask cursor)).isSome
  goesOn : ∀ part ∈ parts.dropLast, ¬part.IsLast
  ends : ∃ part, parts.getLast? = some part ∧ part.IsLast

/-- The requests for the parts of a list. -/
def requestsFor (client : Client) (ask : Request α) (first : Option String)
    (parts : List (Listing α)) : List NotionProject.Request :=
  (cursors first parts).filterMap fun cursor => client.sent? (ask cursor)

theorem requestsFor_cons {first : Option String} {part : Listing α} {rest : List (Listing α)}
    {request : NotionProject.Request} (h : client.sent? (ask first) = some request) :
    requestsFor client ask first (part :: rest) =
      request :: requestsFor client ask part.nextCursor rest := by
  simp [requestsFor, cursors, h]

/-- If every part can be asked for, the requests are one for each cursor. -/
theorem map_some_requestsFor {first : Option String} {parts : List (Listing α)}
    (h : ∀ cursor ∈ cursors first parts, (client.sent? (ask cursor)).isSome) :
    (requestsFor client ask first parts).map some =
      (cursors first parts).map fun cursor => client.sent? (ask cursor) := by
  unfold requestsFor
  rw [List.map_filterMap_some_eq_filter_map_isSome, List.filter_eq_self]
  simpa using h

namespace Delivers

variable {first : Option String} {replies : List Reply} {part next : Listing α}
  {rest : List (Listing α)}

/-- The first reply carries the first part, which can be asked for. -/
theorem head (h : Delivers client ask decode first replies (part :: rest)) :
    ∃ reply others request, replies = reply :: others ∧ reply.Carries decode part ∧
      List.Forall₂ (Reply.Carries decode) others rest ∧
      client.sent? (ask first) = some request := by
  obtain ⟨reply, others, hc, hrest, rfl⟩ := List.forall₂_cons_right_iff.1 h.carried
  obtain ⟨request, hr⟩ := Option.isSome_iff_exists.1 (h.sent first (by simp [cursors]))
  exact ⟨reply, others, request, rfl, hc, hrest, hr⟩

/-- The replies after the first one hold the parts after the first one. -/
theorem tail {reply : Reply} {others : List Reply}
    (h : Delivers client ask decode first (reply :: others) (part :: next :: rest)) :
    Delivers client ask decode part.nextCursor others (next :: rest) where
  carried := (List.forall₂_cons.1 h.carried).2
  sent cursor hc := h.sent cursor (List.mem_cons_of_mem _ hc)
  goesOn p hp := h.goesOn p (by simp [List.dropLast, hp])
  ends := by simpa using h.ends

/-- A last part is a list by itself. -/
theorem single {reply : Reply} {request : NotionProject.Request} (hc : reply.Carries decode part)
    (hs : client.sent? (ask first) = some request) (hlast : part.IsLast) :
    Delivers client ask decode first [reply] [part] where
  carried := .cons hc .nil
  sent := by simp [cursors, hs]
  goesOn := by simp
  ends := ⟨part, rfl, hlast⟩

/-- A part that goes on comes before the list at its cursor. -/
theorem cons {reply : Reply} {request : NotionProject.Request}
    (h : Delivers client ask decode part.nextCursor replies rest)
    (hc : reply.Carries decode part) (hs : client.sent? (ask first) = some request)
    (hlast : ¬part.IsLast) :
    Delivers client ask decode first (reply :: replies) (part :: rest) := by
  obtain ⟨last, hl, hend⟩ := h.ends
  cases rest with
  | nil => cases hl
  | cons next rest =>
    refine ⟨.cons hc h.carried, ?_, ?_, last, by simpa using hl, hend⟩
    · simpa [cursors, hs] using h.sent
    · simpa [List.dropLast, hlast] using h.goesOn

end Delivers

/-- Against replies that hold a list in parts a walk asks once for each part, has all their
items in order, and leaves the replies that come later. -/
theorem comesTo_follow (hread : ∀ cursor, (ask cursor).read = Answer.read decode)
    (later : List Reply) : ∀ {parts : List (Listing α)} {replies : List Reply}
      {first : Option String} (number : Nat), Delivers client ask decode first replies parts →
      (follow client ask (replies ++ later) number first).ComesTo
        (.ok ⟨parts.flatMap Listing.results, number + (parts.length - 1)⟩)
        (requestsFor client ask first parts) (.scripted later)
  | [], _, _, _, h => by
    obtain ⟨part, hp, -⟩ := h.ends
    simp at hp
  | [part], _, first, number, h => by
    obtain ⟨reply, others, request, rfl, hc, hrest, hr⟩ := h.head
    obtain rfl := List.forall₂_nil_right_iff.1 hrest
    have hlast : part.IsLast := by simpa using h.ends
    have hp := Client.comesTo_carried (hread first) hr hc later
    rw [requestsFor_cons hr]
    simpa [single, requestsFor, cursors] using follow_last number hp hlast
  | part :: next :: rest, _, first, number, h => by
    obtain ⟨reply, others, request, rfl, hc, -, hr⟩ := h.head
    have ih := comesTo_follow hread later (number + 1) h.tail
    have hp := Client.comesTo_carried (hread first) hr hc (others ++ later)
    have hgo : ¬part.IsLast := h.goesOn part (by simp [List.dropLast])
    have hcount : number + 1 + ((next :: rest).length - 1) =
        number + ((part :: next :: rest).length - 1) := by
      simp only [List.length_cons]
      omega
    rw [requestsFor_cons hr, ← hcount]
    exact follow_goOn hp hgo ih

/-- The cursor at which the part after the given ones is asked for. -/
def cursorAfter (first : Option String) : List (Listing α) → Option String
  | [] => first
  | part :: rest => cursorAfter part.nextCursor rest

/-- The replies hold a list as far as to a part that cannot be asked for: no part before it is
a last one. -/
structure StopsShort (client : Client) (ask : Request α) (decode : Decoder (Listing α))
    (first : Option String) (replies : List Reply) (parts : List (Listing α)) : Prop where
  carried : List.Forall₂ (Reply.Carries decode) replies parts
  sent : ∀ cursor ∈ cursors first parts, (client.sent? (ask cursor)).isSome
  goesOn : ∀ part ∈ parts, ¬part.IsLast
  unsent : client.sent? (ask (cursorAfter first parts)) = none

/-- A list whose first part cannot be asked for is held as far as to nothing. -/
theorem stopsShort_nil {first : Option String} (h : client.sent? (ask first) = none) :
    StopsShort client ask decode first [] [] :=
  ⟨.nil, by simp [cursors], by simp, h⟩

/-- A part that cannot be asked for ends the walk, with the requests made before it. -/
theorem comesTo_follow_short (hread : ∀ cursor, (ask cursor).read = Answer.read decode)
    (later : List Reply) : ∀ {parts : List (Listing α)} {replies : List Reply}
      {first : Option String} {number : Nat}, StopsShort client ask decode first replies parts →
      (follow client ask (replies ++ later) number first).ComesTo
        (.error (client.unsent (ask (cursorAfter first parts))))
        (requestsFor client ask first parts) (.scripted later)
  | [], _, first, number, h => by
    obtain rfl := List.forall₂_nil_right_iff.1 h.carried
    exact follow_error (Client.comesTo_perform_unsent h.unsent _)
  | part :: rest, _, first, number, h => by
    obtain ⟨reply, others, hc, hrest, rfl⟩ := List.forall₂_cons_right_iff.1 h.carried
    obtain ⟨request, hr⟩ := Option.isSome_iff_exists.1 (h.sent first (by simp [cursors]))
    have htail : StopsShort client ask decode part.nextCursor others rest :=
      ⟨hrest, fun cursor hm => h.sent cursor (List.mem_cons_of_mem _ hm),
        fun p hp => h.goesOn p (List.mem_cons_of_mem _ hp), h.unsent⟩
    have hp := Client.comesTo_carried (hread first) hr hc (others ++ later)
    rw [requestsFor_cons hr]
    exact follow_goOn hp (h.goesOn part (by simp)) (comesTo_follow_short hread later htail)

/-- Against replies that hold a list in parts a walk through it comes to its items, in their
order, and to the number of its parts. -/
theorem comesTo_all (hread : ∀ cursor, (ask cursor).read = Answer.read decode)
    {replies : List Reply} {parts : List (Listing α)}
    (h : Delivers client ask decode none replies parts) (later : List Reply) :
    ((all client ask).run (.scripted (replies ++ later))).ComesTo
      (.ok ⟨parts.flatMap Listing.results, parts.length⟩) (requestsFor client ask none parts)
      (.scripted later) := by
  have hpos : 0 < parts.length := by
    obtain ⟨part, hp, -⟩ := h.ends
    exact List.length_pos_of_mem (List.mem_of_getLast? hp)
  have hcount : 1 + (parts.length - 1) = parts.length := by omega
  have hrun := comesTo_follow hread later 1 h
  rw [hcount] at hrun
  exact hrun

/-- A walk that has a value has a part first. -/
theorem exists_part_of_ok {replies : List Reply} {number : Nat} {first : Option String}
    {walk : Walk α} (h : (follow client ask replies number first).outcome = .ok walk) :
    ∃ part, ((client.perform (ask first)).run (.scripted replies)).outcome = .ok part := by
  cases hp : ((client.perform (ask first)).run (.scripted replies)).outcome with
  | ok part => exact ⟨part, rfl⟩
  | error failure =>
    rw [(follow_error ⟨hp, rfl, rfl⟩).outcome_eq] at h
    cases h

/-- A walk has a value only if the replies begin with a list in parts. -/
theorem exists_delivers_of_ok (hread : ∀ cursor, (ask cursor).read = Answer.read decode) :
    ∀ {replies : List Reply}, .unreachable ∉ replies → ∀ {number : Nat} {first : Option String}
      {walk : Walk α}, (follow client ask replies number first).outcome = .ok walk →
      ∃ taken later parts, replies = taken ++ later ∧
        Delivers client ask decode first taken parts
  | [], hu, _, first, _, h => by
    obtain ⟨part, hp⟩ := exists_part_of_ok h
    obtain ⟨_, _, _, hnil, -⟩ := Client.exists_carried_of_ok (hread first) hu hp
    cases hnil
  | reply :: rest, hu, number, first, walk, h => by
    obtain ⟨part, hp⟩ := exists_part_of_ok h
    obtain ⟨request, _, _, ⟨⟩, hs, hc⟩ := Client.exists_carried_of_ok (hread first) hu hp
    by_cases hlast : part.IsLast
    · exact ⟨[reply], rest, [part], rfl, .single hc hs hlast⟩
    · have hgo : (follow client ask (reply :: rest) number first).ComesTo _ _ _ :=
        follow_goOn (Client.comesTo_carried (hread first) hs hc rest) hlast ⟨rfl, rfl, rfl⟩
      rw [hgo.outcome_eq] at h
      cases ho : (follow client ask rest (number + 1) part.nextCursor).outcome with
      | error failure =>
        rw [ho] at h
        cases h
      | ok others =>
        obtain ⟨taken, later, parts, rfl, hd⟩ :=
          exists_delivers_of_ok hread (fun hm => hu (List.mem_cons_of_mem _ hm)) ho
        exact ⟨reply :: taken, later, part :: parts, rfl, hd.cons hc hs hlast⟩

/-- A walk has a value exactly if the replies begin with a list in parts. -/
theorem all_ok_iff (hread : ∀ cursor, (ask cursor).read = Answer.read decode)
    {replies : List Reply} (hu : .unreachable ∉ replies) :
    (∃ walk, ((all client ask).run (.scripted replies)).outcome = .ok walk) ↔
      ∃ taken later parts, replies = taken ++ later ∧
        Delivers client ask decode none taken parts := by
  constructor
  · rintro ⟨walk, h⟩
    exact exists_delivers_of_ok hread hu h
  · rintro ⟨taken, later, parts, rfl, h⟩
    exact ⟨_, (comesTo_all hread h later).outcome_eq⟩

/-- A walk through a whole list ends at a part that cannot be asked for. -/
theorem comesTo_all_short (hread : ∀ cursor, (ask cursor).read = Answer.read decode)
    {replies : List Reply} {parts : List (Listing α)}
    (h : StopsShort client ask decode none replies parts) (later : List Reply) :
    ((all client ask).run (.scripted (replies ++ later))).ComesTo
      (.error (client.unsent (ask (cursorAfter none parts)))) (requestsFor client ask none parts)
      (.scripted later) :=
  comesTo_follow_short hread later h

/-! ## A list in two parts -/

/-- A database, and then a page. -/
def sampleParts : List (Listing Block) :=
  [⟨"", [.ofDatabase (.ofRandom 2) "B"], some "c", true⟩,
    ⟨"", [.ofPage (.ofRandom 3) "A"], none, false⟩]

/-- The text of a block with a title. -/
def blockText (digits type title : String) : String :=
  "\x7b\"id\":\"" ++ digits ++ "\",\"type\":\"" ++ type ++ "\",\"" ++ type ++
    "\":\x7b\"title\":\"" ++ title ++ "\"\x7d\x7d"

/-- The characters of its parts. From a whole text they are only found in a time that grows with the
square of its length. -/
theorem toList_blockText (digits type title : String) :
    (blockText digits type title).toList = "\x7b\"id\":\"".toList ++ digits.toList ++
      "\",\"type\":\"".toList ++ type.toList ++ "\",\"".toList ++ type.toList ++
      "\":\x7b\"title\":\"".toList ++ title.toList ++ "\"\x7d\x7d".toList := by
  unfold blockText
  simp only [String.toList_append]

def firstSampleText : String :=
  "\x7b\"results\":[" ++ blockText "20000000000040008000000000000000" "child_database" "B" ++
    "],\"next_cursor\":\"c\",\"has_more\":true\x7d"

def lastSampleText : String :=
  "\x7b\"results\":[" ++ blockText "30000000000040008000000000000000" "child_page" "A" ++ "]\x7d"

def sampleReplies : List Reply :=
  [.answer 200 firstSampleText, .answer 200 lastSampleText]

/-- A part is told by what it lists and where it goes on. -/
theorem carries_of_parts {text object : String} {results : List Block}
    {nextCursor : Option String} {hasMore : Bool}
    (h : (Decoder.ofText (Listing.decode Block.decode) text).toOption.map
      (fun part => (part.object, part.results, part.nextCursor, part.hasMore)) =
        some (object, results, nextCursor, hasMore)) :
    (Reply.answer 200 text).Carries (Listing.decode Block.decode)
      ⟨object, results, nextCursor, hasMore⟩ := by
  obtain ⟨part, hc, hview⟩ := Reply.exists_carries h
  simp only [Prod.mk.injEq] at hview
  obtain ⟨rfl, rfl, rfl, rfl⟩ := hview
  exact hc

theorem delivers_sample :
    Delivers (Client.sample "http://a/v1") (Endpoint.children (.ofRandom 0))
      (Listing.decode Block.decode) none sampleReplies sampleParts where
  carried := .cons (carries_of_parts (by decide +kernel))
    (.cons (carries_of_parts (by decide +kernel)) .nil)
  sent := by decide +kernel
  goesOn := by simp [sampleParts, Listing.IsLast]
  ends := by simp [sampleParts, Listing.IsLast]

/-! ## Exactness -/

/-- Walks are exact: against replies that hold a list in parts, the walk makes one request for
each part, at the cursors in order, has the items of all parts and counts the parts, and leaves
the later replies; and if a part cannot be asked for, the requests before it are all that the
walk makes. -/
structure IsExact (client : Client) (ask : Request α) (decode : Decoder (Listing α)) : Prop where
  completes : ∀ {replies : List Reply} {parts : List (Listing α)} (later : List Reply),
    Delivers client ask decode none replies parts →
    let run := (all client ask).run (.scripted (replies ++ later))
    run.outcome = .ok ⟨parts.flatMap Listing.results, parts.length⟩ ∧
      run.requests.map some = (cursors none parts).map (fun cursor => client.sent? (ask cursor)) ∧
      run.server = .scripted later
  stops : ∀ {replies : List Reply} {parts : List (Listing α)} (later : List Reply),
    StopsShort client ask decode none replies parts →
    let run := (all client ask).run (.scripted (replies ++ later))
    run.outcome = .error (client.unsent (ask (cursorAfter none parts))) ∧
      run.requests.map some = (cursors none parts).map (fun cursor => client.sent? (ask cursor)) ∧
      run.server = .scripted later

theorem isExact_of_read (hread : ∀ cursor, (ask cursor).read = Answer.read decode) :
    IsExact client ask decode where
  completes later h := by
    have hrun := comesTo_all hread h later
    refine ⟨hrun.outcome_eq, ?_, hrun.server_eq⟩
    rw [hrun.requests_eq]
    exact map_some_requestsFor h.sent
  stops later h := by
    have hrun := comesTo_all_short hread h later
    refine ⟨hrun.outcome_eq, ?_, hrun.server_eq⟩
    rw [hrun.requests_eq]
    exact map_some_requestsFor h.sent

/-- The walks through the children of a page and through the records of a database are
exact. -/
theorem isExact_children_and_records (client : Client) :
    (∀ parent : Identifier,
      IsExact client (Endpoint.children parent) (Listing.decode Block.decode)) ∧
    ∀ (id : Identifier) (options : QueryOptions),
      IsExact client (fun cursor => Endpoint.query id (Project.partQuery options cursor))
        (Listing.decode Page.decode) :=
  ⟨fun _ => isExact_of_read fun _ => rfl, fun _ _ => isExact_of_read fun _ => rfl⟩

/-- A walk through the list in two parts, with a reply left over. -/
theorem isExact_children_sample :
    let client := Client.sample "http://a/v1"
    let ask := Endpoint.children (.ofRandom 0)
    let run := (all client ask).run (.scripted (sampleReplies ++ [.dropped]))
    run.outcome = .ok ⟨[.ofDatabase (.ofRandom 2) "B", .ofPage (.ofRandom 3) "A"], 2⟩ ∧
      run.requests.map some = [client.sent? (ask none), client.sent? (ask (some "c"))] ∧
      run.server = .scripted [.dropped] :=
  ((isExact_children_and_records (Client.sample "http://a/v1")).1 (.ofRandom 0)).completes
    [.dropped] delivers_sample

/-- Against a part that goes on at a cursor that is too long, a walk through children stops. -/
theorem stopsShort_of_long {client : Client} {parent : Identifier} {reply : Reply}
    {part : Listing Block} {cursor : String}
    (hsent : (client.sent? (Endpoint.children parent none)).isSome)
    (hc : reply.Carries (Listing.decode Block.decode) part) (hmore : part.hasMore = true)
    (hnext : part.nextCursor = some cursor)
    (hlong : NotionProject.Request.maxUrlLength < cursor.toList.length) :
    StopsShort client (Endpoint.children parent) (Listing.decode Block.decode) none [reply]
      [part] where
  carried := .cons hc .nil
  sent := by simpa [cursors] using hsent
  goesOn := by simp [Listing.IsLast, hmore, hnext]
  unsent := by
    simp only [cursorAfter, hnext]
    exact client.sent?_children_of_long parent hlong

/-- A walk stops at a cursor of 65535 characters, although the replies hold the list to its
last part. -/
theorem stops_at_long_cursor : ∃ cursor : String,
    let client := Client.sample "http://a/v1"
    let ask := Endpoint.children (.ofRandom 0)
    let parts : List (Listing Block) :=
      [⟨"", [], some cursor, true⟩, ⟨"", [.ofPage (.ofRandom 3) "A"], none, false⟩]
    let replies := [Reply.answer 200 (Listing.partText cursor), .answer 200 lastSampleText]
    let run := (all client ask).run (.scripted replies)
    cursor = String.ofList (List.replicate 65535 'a') ∧
      List.Forall₂ (Reply.Carries (Listing.decode Block.decode)) replies parts ∧
      (∀ part ∈ parts.dropLast, ¬part.IsLast) ∧
      (∃ part, parts.getLast? = some part ∧ part.IsLast) ∧
      run.outcome ≠ .ok ⟨parts.flatMap Listing.results, parts.length⟩ ∧
      run.requests.map some = [client.sent? (ask none)] := by
  obtain ⟨cursor, hcursor⟩ : ∃ cursor, cursor = String.ofList (List.replicate 65535 'a') := ⟨_, rfl⟩
  refine ⟨cursor, ?_⟩
  intro client ask parts replies run
  have hplain : cursor.toList.all Token.isPlain = true := by
    rw [hcursor, String.toList_ofList, List.all_replicate]
    decide
  have hlong : NotionProject.Request.maxUrlLength < cursor.toList.length := by
    rw [hcursor, String.toList_ofList, List.length_replicate]
    decide
  have hfirst := Reply.carries_of_ofText (Listing.decode_partText hplain)
  have hlast := (List.forall₂_cons.1 delivers_sample.carried).2
  have hsent : (client.sent? (ask none)).isSome :=
    delivers_sample.sent none (by simp [sampleParts, cursors])
  have hshort := stopsShort_of_long hsent hfirst rfl rfl hlong
  have hrun : run.ComesTo _ _ _ :=
    comesTo_all_short (fun _ => rfl) hshort [.answer 200 lastSampleText]
  refine ⟨hcursor, ?_, ?_, ?_, ?_, ?_⟩
  · exact List.Forall₂.cons hfirst hlast
  · simp [parts, Listing.IsLast]
  · simp [parts, Listing.IsLast]
  · intro h
    rw [hrun.outcome_eq] at h
    cases h
  · rw [hrun.requests_eq, map_some_requestsFor hshort.sent]
    rfl

end Walk

end NotionProject
