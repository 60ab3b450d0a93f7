import NotionProject.Proofs.Paging
import NotionProject.Finding

/-!
# Resolution

What a search by title comes to against replies that hold the children of a page in parts.

A search for pages makes the requests of the walk and no others (`findAll_page`): its result
is told by the blocks of all parts in their order. A search for databases goes on to ask for
every block of type `child_database`, whatever title the block carries
(`findAll_database`): its result is told by the databases that were answered. Both searches
among blocks go by induction on the blocks (`comesTo_matchesAmong_page`,
`comesTo_matchesAmong_database`).

No other replies let a search know what there is (`matchingChildren_page_ok_iff`,
`matchingChildren_database_ok_iff`). It ends at a part of the children that cannot be asked for
(`comesTo_findAll_short`), and that failure does not say that nothing was found
(`Client.unsent_ne_notFound`).
-/

namespace NotionProject

/-! ## Titles -/

theorem Block.kind?_eq_some_iff {block : Block} {kind : Kind} :
    block.kind? = some kind ↔ block.type = typeOf kind := by
  unfold kind?
  by_cases hp : block.type = typeOf .page
  · cases kind <;> simp [hp, typeOf]
  by_cases hd : block.type = typeOf .database
  · cases kind <;> simp [hd, typeOf]
  · cases kind <;> simp [hp, hd]

/-- The characters of a segment of a title: of its plain text, or else of the text that was
written, or else none. -/
def RichText.visible (segment : RichText) : List Char :=
  match segment.plainText, segment.text with
  | some text, _ => text.toList
  | none, some written => written.content.toList
  | none, none => []

/-- The title of a database, segment by segment. -/
def Database.visibleTitle (database : Database) : String :=
  String.ofList (database.title.flatMap RichText.visible)

theorem RichText.toList_plain (segment : RichText) : segment.plain.toList = segment.visible := by
  unfold plain visible
  cases segment.plainText with
  | some text => rfl
  | none => cases segment.text <;> rfl

theorem Database.titleText_eq (database : Database) :
    database.titleText = database.visibleTitle := by
  apply String.toList_injective
  unfold titleText RichText.plainOf visibleTitle
  rw [String.toList_ofList, String.toList_join, List.flatMap_map]
  exact List.flatMap_congr fun segment _ => segment.toList_plain

namespace Project

variable {project : Project} {title : String}

/-! ## Pages among blocks -/

/-- The identifiers of the pages among blocks that carry a title, in order. A page that carries
none has the empty one. -/
def pagesNamed (title : String) (blocks : List Block) : List Identifier :=
  (blocks.filter fun block =>
    block.type == "child_page" && block.pageTitle?.getD "" == title).map Block.id

theorem pagesNamed_cons_of_ne {block : Block} (h : block.type ≠ "child_page")
    (rest : List Block) : pagesNamed title (block :: rest) = pagesNamed title rest := by
  simp [pagesNamed, h]

theorem pagesNamed_cons {block : Block} (h : block.type = "child_page") (rest : List Block) :
    pagesNamed title (block :: rest) =
      if sameTitle .page (block.pageTitle?.getD "") title then block.id :: pagesNamed title rest
      else pagesNamed title rest := by
  unfold pagesNamed sameTitle
  rw [List.filter_cons, h]
  simp only [beq_self_eq_true, Bool.true_and]
  split <;> rfl

/-- Among blocks pages are found without asking for anything. -/
theorem comesTo_matchesAmong_page (title : String) (server : Server) : ∀ blocks : List Block,
    ((project.matchesAmong .page title blocks).run server).ComesTo
      (.ok (pagesNamed title blocks)) [] server
  | [] => Call.comesTo_pure _ _
  | block :: rest => by
    have ih := comesTo_matchesAmong_page title server rest
    unfold matchesAmong
    by_cases hk : block.kind? = some .page
    · rw [if_pos hk, pagesNamed_cons (Block.kind?_eq_some_iff.1 hk)]
      exact (Call.comesTo_pure _ _).after (ih.andFinally (Call.comesTo_pure _ _))
    · rw [if_neg hk, pagesNamed_cons_of_ne (fun ht => hk (Block.kind?_eq_some_iff.2 ht))]
      exact ih

/-! ## Databases among blocks -/

/-- The identifiers of the databases among blocks, in order. -/
def databaseIds (blocks : List Block) : List Identifier :=
  (blocks.filter fun block => block.type == "child_database").map Block.id

theorem databaseIds_cons_of_ne {block : Block} (h : block.type ≠ "child_database")
    (rest : List Block) : databaseIds (block :: rest) = databaseIds rest := by
  simp [databaseIds, h]

theorem databaseIds_cons {block : Block} (h : block.type = "child_database")
    (rest : List Block) : databaseIds (block :: rest) = block.id :: databaseIds rest := by
  simp [databaseIds, h]

/-- The identifiers whose databases have a title, up to case, in order. -/
def databasesNamed (title : String) (ids : List Identifier) (databases : List Database) :
    List Identifier :=
  ((ids.zip databases).filter fun pair =>
    lowercase pair.2.visibleTitle == lowercase title).map Prod.fst

theorem databasesNamed_cons (id : Identifier) (ids : List Identifier) (database : Database)
    (databases : List Database) :
    databasesNamed title (id :: ids) (database :: databases) =
      if sameTitle .database database.visibleTitle title then
        id :: databasesNamed title ids databases
      else databasesNamed title ids databases := by
  unfold databasesNamed sameTitle
  rw [List.zip_cons_cons, List.filter_cons]
  split <;> rfl

/-- The requests for databases. -/
def lookups (client : Client) (ids : List Identifier) : List Request :=
  ids.filterMap fun id => client.sent? (Endpoint.database id)

theorem map_some_lookups {client : Client} {ids : List Identifier}
    (h : ∀ id ∈ ids, (client.sent? (Endpoint.database id)).isSome) :
    (lookups client ids).map some = ids.map fun id => client.sent? (Endpoint.database id) := by
  unfold lookups
  rw [List.map_filterMap_some_eq_filter_map_isSome, List.filter_eq_self]
  simpa using h

/-- The answers hold the databases with the identifiers, which all can be asked for. -/
structure Retrieves (client : Client) (ids : List Identifier) (answers : List Reply)
    (databases : List Database) : Prop where
  carried : List.Forall₂ (Reply.Carries Database.decode) answers databases
  length_eq : databases.length = ids.length
  sent : ∀ id ∈ ids, (client.sent? (Endpoint.database id)).isSome

namespace Retrieves

variable {client : Client} {id : Identifier} {ids : List Identifier} {answers : List Reply}
  {databases : List Database}

theorem eq_nil (h : Retrieves client [] answers databases) : answers = [] ∧ databases = [] := by
  obtain rfl := List.length_eq_zero_iff.1 h.length_eq
  exact ⟨List.forall₂_nil_right_iff.1 h.carried, rfl⟩

/-- The first answer holds the first database, and the others hold the others. -/
theorem uncons (h : Retrieves client (id :: ids) answers databases) :
    ∃ reply others database rest request, answers = reply :: others ∧
      databases = database :: rest ∧ reply.Carries Database.decode database ∧
      client.sent? (Endpoint.database id) = some request ∧ Retrieves client ids others rest := by
  cases databases with
  | nil => exact absurd h.length_eq (by simp)
  | cons database rest =>
    obtain ⟨reply, others, hc, hrest, rfl⟩ := List.forall₂_cons_right_iff.1 h.carried
    obtain ⟨request, hr⟩ := Option.isSome_iff_exists.1 (h.sent id (by simp))
    exact ⟨reply, others, database, rest, request, rfl, rfl, hc, hr, hrest,
      by simpa using h.length_eq, fun i hi => h.sent i (List.mem_cons_of_mem _ hi)⟩

/-- One more database comes before the others. -/
theorem cons {reply : Reply} {database : Database} {request : Request}
    (h : Retrieves client ids answers databases) (hc : reply.Carries Database.decode database)
    (hs : client.sent? (Endpoint.database id) = some request) :
    Retrieves client (id :: ids) (reply :: answers) (database :: databases) where
  carried := .cons hc h.carried
  length_eq := by simp [h.length_eq]
  sent := by simpa [hs] using h.sent

end Retrieves

/-- The title of a database is asked for, whatever title the block carries. -/
theorem comesTo_titleOf_database {block : Block} {request : Request} {reply : Reply}
    {database : Database} (hr : project.client.sent? (Endpoint.database block.id) = some request)
    (hc : reply.Carries Database.decode database) (rest : List Reply) :
    ((project.titleOf .database block).run (.scripted (reply :: rest))).ComesTo
      (.ok database.visibleTitle) [request] (.scripted rest) := by
  rw [← database.titleText_eq]
  exact (Client.comesTo_carried rfl hr hc rest).andFinally (Call.comesTo_pure _ _)

/-- Each database among the blocks takes the next answer. -/
theorem comesTo_matchesAmong_database (title : String) (later : List Reply) :
    ∀ {blocks : List Block} {answers : List Reply} {databases : List Database},
      Retrieves project.client (databaseIds blocks) answers databases →
      ((project.matchesAmong .database title blocks).run (.scripted (answers ++ later))).ComesTo
        (.ok (databasesNamed title (databaseIds blocks) databases))
        (lookups project.client (databaseIds blocks)) (.scripted later)
  | [], answers, databases, h => by
    obtain ⟨rfl, rfl⟩ := h.eq_nil
    exact Call.comesTo_pure _ _
  | block :: rest, answers, databases, h => by
    unfold matchesAmong
    by_cases hk : block.kind? = some .database
    · rw [databaseIds_cons (Block.kind?_eq_some_iff.1 hk)] at h ⊢
      obtain ⟨reply, others, database, databases, request, rfl, rfl, hc, hr, htail⟩ := h.uncons
      have ih := comesTo_matchesAmong_database title later htail
      have hlookups : lookups project.client (block.id :: databaseIds rest) =
          [request] ++ lookups project.client (databaseIds rest) := by
        simp [lookups, hr]
      rw [if_pos hk, hlookups, databasesNamed_cons]
      exact (comesTo_titleOf_database hr hc _).bind (ih.andFinally (Call.comesTo_pure _ _))
    · rw [databaseIds_cons_of_ne (fun ht => hk (Block.kind?_eq_some_iff.2 ht))] at h ⊢
      rw [if_neg hk]
      exact comesTo_matchesAmong_database title later h

/-- The titles of all databases among the blocks are known only if the replies begin with the
databases. -/
theorem exists_retrieves_of_ok : ∀ {blocks : List Block} {replies : List Reply},
    .unreachable ∉ replies → ∀ {found : List Identifier},
      ((project.matchesAmong .database title blocks).run (.scripted replies)).outcome =
        .ok found → ∃ answers later databases, replies = answers ++ later ∧
          Retrieves project.client (databaseIds blocks) answers databases
  | [], replies, _, _, _ => ⟨[], replies, [], rfl, .nil, rfl, by simp [databaseIds]⟩
  | block :: rest, replies, hu, found, h => by
    unfold matchesAmong at h
    by_cases hk : block.kind? = some .database
    · rw [if_pos hk, Call.outcome_bind_eq_ok_iff] at h
      obtain ⟨candidate, ht, h⟩ := h
      obtain ⟨database, hd, -⟩ := Call.outcome_bind_eq_ok_iff.1 ht
      obtain ⟨request, reply, others, rfl, hs, hc⟩ := Client.exists_carried_of_ok rfl hu hd
      rw [(comesTo_titleOf_database hs hc others).server_eq, Call.outcome_bind_eq_ok_iff] at h
      obtain ⟨others, hrest, -⟩ := h
      obtain ⟨answers, later, databases, rfl, hr⟩ :=
        exists_retrieves_of_ok (fun hm => hu (List.mem_cons_of_mem _ hm)) hrest
      rw [databaseIds_cons (Block.kind?_eq_some_iff.1 hk)]
      exact ⟨reply :: answers, later, database :: databases, rfl, hr.cons hc hs⟩
    · rw [if_neg hk] at h
      rw [databaseIds_cons_of_ne (fun ht => hk (Block.kind?_eq_some_iff.2 ht))]
      exact exists_retrieves_of_ok hu h

/-! ## Searches -/

/-- The replies hold the children of a page in parts. -/
abbrev DeliversChildren (project : Project) (parent : Identifier) (replies : List Reply)
    (parts : List (Listing Block)) : Prop :=
  Walk.Delivers project.client (Endpoint.children parent) (Listing.decode Block.decode) none
    replies parts

variable {kind : Kind} {parent : Identifier} {replies : List Reply} {parts : List (Listing Block)}

theorem everyMatch_eq (kind : Kind) (title : String) (found : List Identifier) :
    everyMatch kind title found =
      if found = [] then .error (.notFound kind title) else .ok found := by
  cases found <;> simp [everyMatch]

/-- The matches are those among the blocks of all parts. -/
theorem comesTo_matchingChildren (h : project.DeliversChildren parent replies parts)
    {later : List Reply} {found : List Identifier} {requests : List Request} {left : Server}
    (hm : ((project.matchesAmong kind title (parts.flatMap Listing.results)).run
      (.scripted later)).ComesTo (.ok found) requests left) :
    ((project.matchingChildren kind parent title).run (.scripted (replies ++ later))).ComesTo
      (.ok found)
      (Walk.requestsFor project.client (Endpoint.children parent) none parts ++ requests) left := by
  refine (Walk.comesTo_all (fun _ => rfl) h later).bind ?_
  exact (Call.comesTo_log _ _ _).after hm

/-- A search walks through the children, and then goes on among the blocks of all parts. -/
theorem comesTo_findAll (h : project.DeliversChildren parent replies parts) {later : List Reply}
    {found : List Identifier} {requests : List Request} {left : Server}
    (hm : ((project.matchesAmong kind title (parts.flatMap Listing.results)).run
      (.scripted later)).ComesTo (.ok found) requests left) :
    ((project.findAll kind parent title).run (.scripted (replies ++ later))).ComesTo
      (if found = [] then .error (.notFound kind title) else .ok found)
      (Walk.requestsFor project.client (Endpoint.children parent) none parts ++ requests) left := by
  rw [← everyMatch_eq]
  exact (comesTo_matchingChildren h hm).andFinally (Call.comesTo_ofExcept _ _)

/-- The matches among the children are known only if the replies begin with the children and, if
databases are looked for, go on with all databases among them. -/
theorem exists_delivers_of_matchingChildren (hu : .unreachable ∉ replies)
    {found : List Identifier}
    (h : ((project.matchingChildren kind parent title).run (.scripted replies)).outcome =
      .ok found) :
    ∃ taken left parts, replies = taken ++ left ∧ project.DeliversChildren parent taken parts ∧
      ((project.matchesAmong kind title (parts.flatMap Listing.results)).run
        (.scripted left)).outcome = .ok found := by
  obtain ⟨walk, hwalk, h⟩ := Call.outcome_bind_eq_ok_iff.1 h
  obtain ⟨taken, left, parts, rfl, hd⟩ := (Walk.all_ok_iff (fun _ => rfl) hu).1 ⟨walk, hwalk⟩
  have hrun := Walk.comesTo_all (fun _ => rfl) hd left
  rw [hrun.outcome_eq] at hwalk
  cases hwalk
  rw [hrun.server_eq] at h
  obtain ⟨-, -, hm⟩ := Call.outcome_bind_eq_ok_iff.1 h
  exact ⟨taken, left, parts, rfl, hd, hm⟩

/-- The pages are known exactly if the replies begin with the children in parts. -/
theorem matchingChildren_page_ok_iff (hu : .unreachable ∉ replies) :
    (∃ found, ((project.matchingChildren .page parent title).run (.scripted replies)).outcome =
      .ok found) ↔
      ∃ taken later parts, replies = taken ++ later ∧
        project.DeliversChildren parent taken parts := by
  constructor
  · rintro ⟨found, h⟩
    obtain ⟨taken, later, parts, hr, hd, -⟩ := exists_delivers_of_matchingChildren hu h
    exact ⟨taken, later, parts, hr, hd⟩
  · rintro ⟨taken, later, parts, rfl, hd⟩
    exact ⟨_, (comesTo_matchingChildren hd (comesTo_matchesAmong_page _ _ _)).outcome_eq⟩

/-- The databases are known exactly if the replies begin with the children in parts and go on
with all databases among them. -/
theorem matchingChildren_database_ok_iff (hu : .unreachable ∉ replies) :
    (∃ found, ((project.matchingChildren .database parent title).run
      (.scripted replies)).outcome = .ok found) ↔
      ∃ taken answers later parts databases, replies = taken ++ (answers ++ later) ∧
        project.DeliversChildren parent taken parts ∧
          Retrieves project.client (databaseIds (parts.flatMap Listing.results)) answers
            databases := by
  constructor
  · rintro ⟨found, h⟩
    obtain ⟨taken, left, parts, rfl, hd, hm⟩ := exists_delivers_of_matchingChildren hu h
    obtain ⟨answers, later, databases, rfl, hr⟩ :=
      exists_retrieves_of_ok (fun h => hu (List.mem_append_right _ h)) hm
    exact ⟨taken, answers, later, parts, databases, rfl, hd, hr⟩
  · rintro ⟨taken, answers, later, parts, databases, rfl, hd, hr⟩
    exact ⟨_, (comesTo_matchingChildren hd (comesTo_matchesAmong_database _ later hr)).outcome_eq⟩

/-- A search ends with a part of the children that cannot be asked for. -/
theorem comesTo_findAll_short
    (h : Walk.StopsShort project.client (Endpoint.children parent) (Listing.decode Block.decode)
      none replies parts) (later : List Reply) :
    ((project.findAll kind parent title).run (.scripted (replies ++ later))).ComesTo
      (.error (project.client.unsent (Endpoint.children parent (Walk.cursorAfter none parts))))
      (Walk.requestsFor project.client (Endpoint.children parent) none parts)
      (.scripted later) := by
  have hwalk := Walk.comesTo_all_short (fun _ => rfl) h later
  exact hwalk.bind_error.bind_error

theorem comesTo_findAll_unsent
    (h : project.client.sent? (Endpoint.children parent none) = none) (replies : List Reply) :
    ((project.findAll kind parent title).run (.scripted replies)).ComesTo
      (.error (project.client.unsent (Endpoint.children parent none))) []
      (.scripted replies) :=
  comesTo_findAll_short (Walk.stopsShort_nil h) replies

/-- A search for pages makes the requests of the walk alone. It finds the pages with the title
among the blocks of all parts, or reports that there is none, however the blocks are divided
into parts. -/
theorem findAll_page (project : Project) (parent : Identifier) (title : String)
    {replies : List Reply} {parts : List (Listing Block)}
    (h : project.DeliversChildren parent replies parts) (later : List Reply) :
    let run := (project.findAll .page parent title).run (.scripted (replies ++ later))
    let found := pagesNamed title (parts.flatMap Listing.results)
    run.outcome = (if found = [] then .error (.notFound .page title) else .ok found) ∧
      run.requests.map some = (Walk.cursors none parts).map
        (fun cursor => project.client.sent? (Endpoint.children parent cursor)) ∧
      run.server = .scripted later ∧
      ∀ {others : List Reply} {otherParts : List (Listing Block)} (otherLater : List Reply),
        project.DeliversChildren parent others otherParts →
        otherParts.flatMap Listing.results = parts.flatMap Listing.results →
        ((project.findAll .page parent title).run
          (.scripted (others ++ otherLater))).outcome = run.outcome := by
  intro run found
  have hrun := comesTo_findAll h (comesTo_matchesAmong_page title (.scripted later) _)
  refine ⟨hrun.outcome_eq, ?_, hrun.server_eq, fun otherLater hother hblocks => ?_⟩
  · rw [hrun.requests_eq, List.append_nil]
    exact Walk.map_some_requestsFor h.sent
  · have hrun' := comesTo_findAll hother
      (comesTo_matchesAmong_page title (.scripted otherLater) _)
    rw [hrun'.outcome_eq, hblocks]
    exact hrun.outcome_eq.symm

/-- The page in the last part is found. -/
theorem findAll_page_sample :
    let project : Project := ⟨.ofRandom 0, .sample "http://a/v1"⟩
    let run := (project.findAll .page (.ofRandom 0) "A").run
      (.scripted (Walk.sampleReplies ++ [.dropped]))
    project.DeliversChildren (.ofRandom 0) Walk.sampleReplies Walk.sampleParts ∧
      run.outcome = .ok [.ofRandom 3] ∧ run.requests.length = 2 ∧
      run.server = .scripted [.dropped] := by
  obtain ⟨houtcome, hrequests, hserver, -⟩ := findAll_page ⟨.ofRandom 0, .sample "http://a/v1"⟩
    (.ofRandom 0) "A" Walk.delivers_sample [.dropped]
  have hfound : pagesNamed "A" (Walk.sampleParts.flatMap Listing.results) = [.ofRandom 3] := by
    decide +kernel
  have hlength := congrArg List.length hrequests
  rw [List.length_map, List.length_map] at hlength
  rw [hfound] at houtcome
  exact ⟨Walk.delivers_sample, houtcome, hlength, hserver⟩

/-- A project at a host that no request can hold. -/
def unsendable : Project :=
  ⟨.ofRandom 0, .sample "http://a\x7db/v1"⟩

theorem sent?_unsendable :
    unsendable.client.sent? (Endpoint.children (.ofRandom 0) none) = none :=
  Option.isNone_iff_eq_none.1 (by decide +kernel)

/-- At such a host no page is found, although the reply lists it. -/
theorem findAll_page_unsendable :
    let part : Listing Block := ⟨"", [.ofPage (.ofRandom 3) "A"], none, false⟩
    let replies := [Reply.answer 200 Walk.lastSampleText]
    let run := (unsendable.findAll .page (.ofRandom 0) "A").run (.scripted replies)
    List.Forall₂ (Reply.Carries (Listing.decode Block.decode)) replies [part] ∧ part.IsLast ∧
      pagesNamed "A" part.results = [.ofRandom 3] ∧
      run.outcome ≠ .ok [.ofRandom 3] ∧ run.requests = [] := by
  have hcarried := (List.forall₂_cons.1 Walk.delivers_sample.carried).2
  have hrun : ((unsendable.findAll .page (.ofRandom 0) "A").run
      (.scripted [.answer 200 Walk.lastSampleText])).ComesTo _ _ _ :=
    comesTo_findAll_unsent sent?_unsendable _
  refine ⟨hcarried, Or.inl rfl, by decide +kernel, fun h => ?_, hrun.requests_eq⟩
  rw [hrun.outcome_eq] at h
  cases h

/-- A part without the titles that its blocks carry. -/
def untitled (part : Listing Block) : List (Identifier × String) × Option String × Bool :=
  (part.results.map fun block => (block.id, block.type), part.nextCursor, part.hasMore)

theorem databaseIds_eq (blocks : List Block) :
    databaseIds blocks = ((blocks.map fun block => (block.id, block.type)).filter fun entry =>
      entry.2 == "child_database").map Prod.fst := by
  rw [databaseIds, List.filter_map, List.map_map]
  rfl

/-- The databases to ask for do not depend on the titles that blocks carry. -/
theorem databaseIds_congr {others : List (Listing Block)}
    (h : others.map untitled = parts.map untitled) :
    databaseIds (others.flatMap Listing.results) = databaseIds (parts.flatMap Listing.results) := by
  have hentries : ∀ list : List (Listing Block),
      (list.flatMap Listing.results).map (fun block => (block.id, block.type)) =
        (list.map untitled).flatMap Prod.fst := by
    intro list
    rw [List.map_flatMap, List.flatMap_map]
    rfl
  rw [databaseIds_eq, databaseIds_eq, hentries, hentries, h]

/-- Nor do the cursors. -/
theorem cursors_congr_of_untitled {others : List (Listing Block)}
    (h : others.map untitled = parts.map untitled) :
    Walk.cursors none others = Walk.cursors none parts := by
  refine Walk.cursors_congr none ?_
  have := congrArg (List.map fun entry => entry.2.1) h
  simpa [List.map_map, untitled, Function.comp_def] using this

/-- A search for databases makes the requests of the walk and then one for each block of type
`child_database`, in order. It finds the databases whose titles, as answered, are the same up to
case, or reports that there is none. The titles that the blocks carry make no difference. -/
theorem findAll_database (project : Project) (parent : Identifier) (title : String)
    {replies answers : List Reply} {parts : List (Listing Block)} {databases : List Database}
    (h : project.DeliversChildren parent replies parts)
    (hd : Retrieves project.client (databaseIds (parts.flatMap Listing.results)) answers databases)
    (later : List Reply) :
    let run := (project.findAll .database parent title).run
      (.scripted (replies ++ (answers ++ later)))
    let ids := databaseIds (parts.flatMap Listing.results)
    let found := databasesNamed title ids databases
    run.outcome = (if found = [] then .error (.notFound .database title) else .ok found) ∧
      run.requests.map some =
        (Walk.cursors none parts).map
          (fun cursor => project.client.sent? (Endpoint.children parent cursor)) ++
        ids.map (fun id => project.client.sent? (Endpoint.database id)) ∧
      run.server = .scripted later ∧
      ∀ {others : List Reply} {otherParts : List (Listing Block)},
        project.DeliversChildren parent others otherParts →
        otherParts.map untitled = parts.map untitled →
        let other := (project.findAll .database parent title).run
          (.scripted (others ++ (answers ++ later)))
        other.outcome = run.outcome ∧ other.requests = run.requests := by
  intro run ids found
  have hrun : run.ComesTo _ _ _ := comesTo_findAll h (comesTo_matchesAmong_database title later hd)
  refine ⟨hrun.outcome_eq, ?_, hrun.server_eq, fun hother huntitled => ?_⟩
  · rw [hrun.requests_eq, List.map_append, Walk.map_some_requestsFor h.sent,
      map_some_lookups hd.sent]
  · have hids := databaseIds_congr huntitled
    rw [← hids] at hd
    have hrun' := comesTo_findAll hother (comesTo_matchesAmong_database title later hd)
    rw [hids, Walk.requestsFor, cursors_congr_of_untitled huntitled] at hrun'
    exact ⟨hrun'.outcome_eq.trans hrun.outcome_eq.symm,
      hrun'.requests_eq.trans hrun.requests_eq.symm⟩

/-- The answer to the lookup of the database in the list of two parts. -/
def sampleAnswer : Reply :=
  .answer 200 ("\x7b\"id\":\"20000000000040008000000000000000\",\"title\":[" ++
    "\x7b\"plain_text\":\"Ta\"\x7d,\x7b\"text\":\x7b\"content\":\"SK\"\x7d\x7d,\x7b\x7d]\x7d")

/-- Its title has a segment of plain text, one with the text that was written, and one without
text. -/
theorem exists_carries_sampleAnswer :
    ∃ database, sampleAnswer.Carries Database.decode database ∧
      lowercase database.visibleTitle = "task" :=
  Reply.exists_carries (by decide +kernel)

/-- The title is put together from its segments and compared without regard to case. -/
theorem findAll_database_sample :
    let project : Project := ⟨.ofRandom 0, .sample "http://a/v1"⟩
    let run := (project.findAll .database (.ofRandom 0) "tASk").run
      (.scripted (Walk.sampleReplies ++ ([sampleAnswer] ++ [.dropped])))
    project.DeliversChildren (.ofRandom 0) Walk.sampleReplies Walk.sampleParts ∧
      (∃ database, Retrieves project.client [.ofRandom 2] [sampleAnswer] [database]) ∧
      run.outcome = .ok [.ofRandom 2] ∧ run.requests.length = 3 ∧
      run.server = .scripted [.dropped] := by
  obtain ⟨database, hcarries, htitle⟩ := exists_carries_sampleAnswer
  have hids : databaseIds (Walk.sampleParts.flatMap Listing.results) = [.ofRandom 2] := by
    decide +kernel
  have hretrieves : Retrieves (Client.sample "http://a/v1")
      (databaseIds (Walk.sampleParts.flatMap Listing.results)) [sampleAnswer] [database] := by
    rw [hids]
    exact ⟨.cons hcarries .nil, rfl, by decide +kernel⟩
  obtain ⟨houtcome, hrequests, hserver, -⟩ := findAll_database
    ⟨.ofRandom 0, .sample "http://a/v1"⟩ (.ofRandom 0) "tASk" Walk.delivers_sample hretrieves
    [.dropped]
  have hlower : lowercase "tASk" = "task" := by decide +kernel
  have hfound : databasesNamed "tASk" [.ofRandom 2] [database] = [.ofRandom 2] := by
    simp [databasesNamed, htitle, hlower]
  have hlength := congrArg List.length hrequests
  rw [hids, hfound] at houtcome
  rw [hids, List.length_map, List.length_append, List.length_map, List.length_map] at hlength
  rw [hids] at hretrieves
  exact ⟨Walk.delivers_sample, ⟨database, hretrieves⟩, houtcome, hlength, hserver⟩

/-- That there is no database is not reported from a host that no request can hold. -/
theorem findAll_database_unsendable :
    let part : Listing Block := ⟨"", [.ofPage (.ofRandom 3) "A"], none, false⟩
    let replies := [Reply.answer 200 Walk.lastSampleText]
    let run := (unsendable.findAll .database (.ofRandom 0) "A").run (.scripted replies)
    List.Forall₂ (Reply.Carries (Listing.decode Block.decode)) replies [part] ∧ part.IsLast ∧
      databaseIds part.results = [] ∧
      run.outcome ≠ .error (.notFound .database "A") ∧ run.requests = [] := by
  have hcarried := (List.forall₂_cons.1 Walk.delivers_sample.carried).2
  have hrun : ((unsendable.findAll .database (.ofRandom 0) "A").run
      (.scripted [.answer 200 Walk.lastSampleText])).ComesTo _ _ _ :=
    comesTo_findAll_unsent sent?_unsendable _
  refine ⟨hcarried, Or.inl rfl, by decide +kernel, fun h => ?_, hrun.requests_eq⟩
  rw [hrun.outcome_eq] at h
  exact Client.unsent_ne_notFound _ _ _ _ (Except.error.inj h)

end Project

end NotionProject
