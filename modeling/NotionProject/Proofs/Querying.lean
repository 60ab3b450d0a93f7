import NotionProject.Proofs.Asking

/-!
# Records of a database

A query walks through all records that match, and keeps the archived ones or the live ones of them
after the walk (`comesTo_queryDatabase`). So both kinds of query ask the same, and together they
come to the records of the walk (`queryDatabase_partitions`).

The cursors at which a walk asks follow a `Trail`: the first one is given, and each other one is
named by the reply before it. That is shown by induction on the replies (`exists_trail_follow`),
whatever they are and wherever the walk ends. Of a query nothing else changes from one request to
the next (`queryDatabase_asks`).
-/

namespace NotionProject

variable {α : Type}

namespace Walk

variable {client : Client} {ask : Request α} {decode : Decoder (Listing α)}

/-! ## The trail of a walk -/

/-- The cursor of the request at a place, counted from zero: the first request has none, and every
other one has the cursor that the part in the reply before it names. -/
def CursorAt (decode : Decoder (Listing α)) (replies : List Reply) : Nat → Option String → Prop
  | 0, cursor => cursor = none
  | k + 1, cursor => ∃ reply part next, replies[k]? = some reply ∧ reply.Carries decode part ∧
      part.nextCursor = some next ∧ cursor = some next

/-- The cursors at which a walk may ask, one after the other: after any of them it may stop, and
it goes on only at the cursor that the part in the next reply names. -/
inductive Trail (decode : Decoder (Listing α)) :
    Option String → List Reply → List (Option String) → Prop where
  | stop (first : Option String) (replies : List Reply) : Trail decode first replies [first]
  | goOn {first : Option String} {reply : Reply} {rest : List Reply} {part : Listing α}
      {next : String} {cursors : List (Option String)} (carries : reply.Carries decode part)
      (next_eq : part.nextCursor = some next) (onward : Trail decode (some next) rest cursors) :
      Trail decode first (reply :: rest) (first :: cursors)

namespace Trail

variable {first : Option String} {replies : List Reply} {cursors : List (Option String)}

theorem getElem?_zero (h : Trail decode first replies cursors) : cursors[0]? = some first := by
  cases h <;> rfl

/-- Every cursor after the first one is named by the part in the reply at the place before. -/
theorem getElem?_succ (h : Trail decode first replies cursors) : ∀ {k : Nat}
    {cursor : Option String}, cursors[k + 1]? = some cursor →
      CursorAt decode replies (k + 1) cursor := by
  induction h with
  | stop first replies => simp
  | goOn carries next_eq onward ih =>
    intro k cursor hk
    cases k with
    | zero =>
      rw [List.getElem?_cons_succ, onward.getElem?_zero] at hk
      exact ⟨_, _, _, rfl, carries, next_eq, (Option.some.inj hk).symm⟩
    | succ k => exact ih hk

/-- A trail without a cursor at its start has at each place the cursor of that place. -/
theorem cursorAt (h : Trail decode none replies cursors) {k : Nat} {cursor : Option String}
    (hk : cursors[k]? = some cursor) : CursorAt decode replies k cursor := by
  cases k with
  | zero =>
    rw [h.getElem?_zero] at hk
    exact (Option.some.inj hk).symm
  | succ k => exact h.getElem?_succ hk

end Trail

/-- Whatever the replies, a walk asks at the cursors of a trail and nothing else. -/
theorem exists_trail_follow (hread : ∀ cursor, (ask cursor).read = Answer.read decode) :
    ∀ {replies : List Reply}, .unreachable ∉ replies → ∀ (number : Nat) (first : Option String),
      ∃ cursors, Trail decode first replies cursors ∧
        (follow client ask replies number first).requests =
          cursors.filterMap fun cursor => client.sent? (ask cursor) := by
  have hstop : ∀ first, (client.sent? (ask first)).toList =
      [first].filterMap fun cursor => client.sent? (ask cursor) := by
    intro first
    cases h : client.sent? (ask first) <;> simp [h]
  intro replies
  induction replies with
  | nil =>
    intro hu number first
    refine ⟨[first], .stop first [], ?_⟩
    rw [← hstop, ← Client.requests_perform (hread first) hu]
    cases ho : ((client.perform (ask first)).run (.scripted [])).outcome with
    | error failure => exact (follow_error ⟨ho, rfl, rfl⟩).requests_eq
    | ok part =>
      -- the exhausted server gives no part
      obtain ⟨_, _, _, hnil, -⟩ := Client.exists_carried_of_ok (hread first) hu ho
      cases hnil
  | cons reply rest ih =>
    intro hu number first
    cases ho : ((client.perform (ask first)).run (.scripted (reply :: rest))).outcome with
    | error failure =>
      refine ⟨[first], .stop first _, ?_⟩
      rw [← hstop, ← Client.requests_perform (hread first) hu]
      exact (follow_error ⟨ho, rfl, rfl⟩).requests_eq
    | ok part =>
      obtain ⟨request, _, _, ⟨⟩, hs, hc⟩ := Client.exists_carried_of_ok (hread first) hu ho
      have hrun := Client.comesTo_carried (hread first) hs hc rest
      by_cases hlast : part.IsLast
      · refine ⟨[first], .stop first _, ?_⟩
        rw [(follow_last number hrun hlast).requests_eq, ← hstop, hs]
        rfl
      · obtain ⟨next, hnext⟩ : ∃ next, part.nextCursor = some next :=
          Option.ne_none_iff_exists'.1 fun hn => hlast (Or.inr hn)
        obtain ⟨cursors, htrail, hrequests⟩ :=
          ih (fun hm => hu (List.mem_cons_of_mem _ hm)) (number + 1) (some next)
        refine ⟨first :: cursors, .goOn hc hnext htrail, ?_⟩
        rw [← hnext] at hrequests
        rw [(follow_goOn hrun hlast ⟨rfl, rfl, rfl⟩).requests_eq, hrequests]
        simp only [List.filterMap_cons, hs, List.singleton_append]

/-- If it makes no difference to whether a part can be asked for where it is, then a walk makes a
request, if it can, and makes each one for the part at the cursor of its place. -/
theorem requests_all (hread : ∀ cursor, (ask cursor).read = Answer.read decode)
    (hsent : ∀ cursor, (client.sent? (ask cursor)).isSome = (client.sent? (ask none)).isSome)
    {replies : List Reply} (hu : .unreachable ∉ replies) :
    let run := (all client ask).run (.scripted replies)
    (run.requests ≠ [] ↔ (client.sent? (ask none)).isSome) ∧
    ∀ k request, run.requests[k]? = some request → ∃ cursor,
      CursorAt decode replies k cursor ∧ client.sent? (ask cursor) = some request := by
  intro run
  obtain ⟨cursors, htrail, hcursors⟩ :
      ∃ cursors, Trail decode none replies cursors ∧ run.requests = _ :=
    exists_trail_follow hread hu 1 none
  by_cases hs : (client.sent? (ask none)).isSome
  · have hmap : run.requests.map some = cursors.map fun cursor => client.sent? (ask cursor) := by
      rw [hcursors, List.map_filterMap_some_eq_filter_map_isSome, List.filter_eq_self]
      simpa [hsent] using fun _ _ => hs
    have hplace : ∀ k : Nat, run.requests[k]?.map some =
        cursors[k]?.map fun cursor => client.sent? (ask cursor) := by
      intro k
      rw [← List.getElem?_map, hmap, List.getElem?_map]
    refine ⟨iff_of_true (fun hnil => ?_) hs, fun k request hk => ?_⟩
    · have h := hplace 0
      rw [hnil, htrail.getElem?_zero] at h
      cases h
    · have h := hplace k
      rw [hk] at h
      obtain ⟨cursor, hcursor, hrequest⟩ := Option.map_eq_some_iff.1 h.symm
      exact ⟨cursor, htrail.cursorAt hcursor, hrequest⟩
  · have hnil : run.requests = [] := by
      rw [hcursors, List.filterMap_eq_nil_iff]
      intro cursor _
      rw [← Option.not_isSome_iff_eq_none, hsent]
      exact hs
    exact ⟨iff_of_false (not_not_intro hnil) hs, by simp [hnil]⟩

end Walk

namespace Project

/-! ## Archived and live records -/

/-- What is asked for each part of the records. -/
abbrev asksRecords (id : Identifier) (filter : Option Json) (sorts : List Json) :
    Walk.Request Page :=
  fun cursor => Endpoint.query id ⟨filter, sorts, cursor⟩

/-- Where a part is to begin makes no difference to whether it can be asked for. -/
theorem isSome_sent?_asksRecords (client : Client) (id : Identifier) (filter : Option Json)
    (sorts : List Json) (cursor : Option String) :
    (client.sent? (asksRecords id filter sorts cursor)).isSome =
      (client.sent? (asksRecords id filter sorts none)).isSome :=
  client.isSome_sent?_send _ _ _ _ _

/-- The records are chosen after the walk, which is the same for both choices. -/
theorem comesTo_queryDatabase {project : Project} {id : Identifier} {options : QueryOptions}
    {server left : Server} {outcome : Except Failure (Walk Page)} {requests : List Request}
    (h : ((Walk.all project.client (asksRecords id options.filter options.sorts)).run
      server).ComesTo outcome requests left) :
    ((project.queryDatabase id options).run server).ComesTo
      (outcome.map fun walk => walk.items.filter fun page => page.archived == options.archived)
      requests left :=
  h.logResult .debug _ _

end Project

/-- A page is archived if its source says so, and live if it says nothing. -/
theorem Page.archived_of_decode {source : Source} {page : Page} (h : decode source = .ok page) :
    (source.field? "archived" 3 = none ∧ page.archived = false) ∨
      source.field? "archived" 3 = some (.bool page.archived) := by
  obtain ⟨given, hgiven, hbuild⟩ := Fields.exists_build_of_decode h
  simp only [fields, Fields.build_seq_eq_ok_iff, Fields.build_map_eq_ok_iff] at hbuild
  -- of the seven fields, one inside the other, only the fourth one matters
  obtain ⟨_, _, ⟨_, _, ⟨_, _, ⟨_, archived, ⟨_, _, ⟨_, _, ⟨_, -, rfl⟩, -, rfl⟩, -, rfl⟩, harchived,
    rfl⟩, -, rfl⟩, -, rfl⟩, -, rfl⟩ := hbuild
  have hfield := Fields.of_build_optional harchived
  rw [hgiven] at hfield
  rcases hfield with hnone | ⟨value, hvalue, hread⟩
  · exact Or.inl hnone
  · cases value with
    | bool b =>
      obtain rfl := Except.ok.inj hread
      exact Or.inr hvalue
    | null => cases hread
    | number n => cases n <;> cases hread
    | string s => cases s <;> cases hread
    | array items fault => cases hread
    | object members fault => cases hread
    | deep container => cases hread
    | broken fault => cases hread

/-- Records divided into live ones and archived ones: each of the two has its records in the order
in which they came, none is in both, and together they are all records, as often as they came. -/
structure Page.Divided (records live archived : List Page) : Prop where
  live_eq : live = records.filter fun page => page.archived == false
  archived_eq : archived = records.filter fun page => page.archived == true
  disjoint : live.Disjoint archived
  perm : (live ++ archived).Perm records
  length_add : live.length + archived.length = records.length

theorem Page.divided_filter (records : List Page) :
    Divided records (records.filter fun page => page.archived == false)
      (records.filter fun page => page.archived == true) := by
  have hnot : (records.filter fun page => page.archived == true) =
      records.filter fun page => !(page.archived == false) :=
    List.filter_congr fun page _ => by cases page.archived <;> rfl
  have hperm : ((records.filter fun page => page.archived == false) ++
      records.filter fun page => page.archived == true).Perm records := by
    rw [hnot]
    exact List.filter_append_perm _ records
  refine ⟨rfl, rfl, fun page hlive harchived => ?_, hperm, ?_⟩
  · have h := (List.mem_filter.1 hlive).2
    rw [beq_iff_eq.1 (List.mem_filter.1 harchived).2] at h
    cases h
  · rw [← List.length_append, hperm.length_eq]

/-! ## Bodies -/

/-- The body asks for parts of full size with the filter, if there is one, and with the sorts, if
there are any, from the cursor on, if there is one; and it asks for nothing else. -/
structure Json.IsQuery (filter : Option Json) (sorts : List Json) (cursor : Option String)
    (body : Json) : Prop where
  page_size_eq : body.member? "page_size" = some (.int 100)
  filter_eq : body.member? "filter" = filter
  sorts_eq : body.member? "sorts" = if sorts = [] then none else some (.array sorts)
  start_cursor_eq : body.member? "start_cursor" = cursor.map .string
  only : ∃ members, body = .object members ∧
    (Members.names members).Sublist ["page_size", "filter", "sorts", "start_cursor"]

theorem DatabaseQuery.isQuery_toJson (query : DatabaseQuery) :
    query.toJson.IsQuery query.filter query.sorts query.startCursor := by
  rcases query with ⟨filter, sorts, cursor⟩
  cases filter <;> cases sorts <;> cases cursor <;>
    exact ⟨rfl, rfl, rfl, rfl, _, rfl, by simp [Members.names]⟩

namespace Project

/-! ## Queries -/

/-- The query for live records and the query for archived records make the same requests and
leave the same of the server. Both have the same failure, or the replies begin with the records in
parts, and the results divide these. -/
theorem queryDatabase_partitions (project : Project) (id : Identifier) (filter : Option Json)
    (sorts : List Json) {replies : List Reply} (hu : .unreachable ∉ replies) :
    let run archived := (project.queryDatabase id ⟨filter, sorts, archived⟩).run (.scripted replies)
    (run false).requests = (run true).requests ∧ (run false).server = (run true).server ∧
    ((∃ failure, ∀ archived, (run archived).outcome = .error failure) ∨
      ∃ taken later parts live archived, replies = taken ++ later ∧
        Walk.Delivers project.client (asksRecords id filter sorts) (Listing.decode Page.decode) none
          taken parts ∧
        (run false).outcome = .ok live ∧ (run true).outcome = .ok archived ∧
        Page.Divided (parts.flatMap Listing.results) live archived) ∧
    ∀ source page, Page.decode source = .ok page →
      (source.field? "archived" 3 = none ∧ page.archived = false) ∨
        source.field? "archived" 3 = some (.bool page.archived) := by
  intro run
  have hrun : ∀ archived, (run archived).ComesTo _ _ _ := fun archived =>
    @comesTo_queryDatabase project id ⟨filter, sorts, archived⟩ _ _ _ _ ⟨rfl, rfl, rfl⟩
  refine ⟨?_, ?_, ?_, fun source page h => page.archived_of_decode h⟩
  · rw [(hrun false).requests_eq, (hrun true).requests_eq]
  · rw [(hrun false).server_eq, (hrun true).server_eq]
  · cases ho : ((Walk.all project.client (asksRecords id filter sorts)).run
      (.scripted replies)).outcome with
    | error failure =>
      refine Or.inl ⟨failure, fun archived => ?_⟩
      rw [(hrun archived).outcome_eq, ho]
      rfl
    | ok walk =>
      obtain ⟨taken, later, parts, rfl, hd⟩ := (Walk.all_ok_iff (fun _ => rfl) hu).1 ⟨walk, ho⟩
      have hwalk := (Walk.comesTo_all (fun _ => rfl) hd later).outcome_eq
      refine Or.inr ⟨taken, later, parts, _, _, rfl, hd, ?_, ?_, Page.divided_filter _⟩
      · rw [(hrun false).outcome_eq, hwalk]
        rfl
      · rw [(hrun true).outcome_eq, hwalk]
        rfl

/-- A part with an archived record, which goes on. -/
def firstRecordsText : String :=
  "\x7b\"results\":[\x7b\"id\":\"20000000000040008000000000000000\",\"archived\":true\x7d]," ++
    "\"next_cursor\":\"c\",\"has_more\":true\x7d"

/-- The last part, with a record that does not say whether it is archived. -/
def lastRecordsText : String :=
  "\x7b\"results\":[\x7b\"id\":\"30000000000040008000000000000000\"\x7d]\x7d"

def sampleRecords : List Reply :=
  [.answer 200 firstRecordsText, .answer 200 lastRecordsText]

/-- The records are those of the two parts, whatever the query. -/
theorem exists_delivers_sampleRecords (filter : Option Json) (sorts : List Json) :
    ∃ first last, Walk.Delivers (Client.sample "http://h/v1")
        (asksRecords (.ofRandom 1) filter sorts) (Listing.decode Page.decode) none sampleRecords
        [first, last] ∧
      first.nextCursor = some "c" ∧
      ([first, last].flatMap Listing.results).map (fun page => (page.id.text, page.archived)) =
        [("20000000000040008000000000000000", true),
          ("30000000000040008000000000000000", false)] := by
  let view (part : Listing Page) :=
    (part.results.map fun page => (page.id.text, page.archived), part.nextCursor, part.hasMore)
  have hfirst : (Decoder.ofText (Listing.decode Page.decode) firstRecordsText).toOption.map view =
      some ([("20000000000040008000000000000000", true)], some "c", true) := by decide +kernel
  have hlast : (Decoder.ofText (Listing.decode Page.decode) lastRecordsText).toOption.map view =
      some ([("30000000000040008000000000000000", false)], none, false) := by decide +kernel
  obtain ⟨first, hfirst, hview⟩ := Reply.exists_carries hfirst
  obtain ⟨last, hlast, hview'⟩ := Reply.exists_carries hlast
  simp only [view, Prod.mk.injEq] at hview hview'
  have hsent : ∀ cursor, ((Client.sample "http://h/v1").sent?
      (asksRecords (.ofRandom 1) filter sorts cursor)).isSome = true := by
    intro cursor
    rw [isSome_sent?_asksRecords]
    exact (Client.isSome_sent?_send _ _ _ _ _ Json.null).trans (by decide +kernel)
  refine ⟨first, last, ⟨.cons hfirst (.cons hlast .nil), fun cursor _ => hsent cursor, ?_, ?_⟩,
    hview.2.1, ?_⟩
  · simp [Listing.IsLast, hview]
  · simp [Listing.IsLast, hview']
  · simp [hview, hview']

/-- The record that says nothing is a live one. -/
theorem queryDatabase_partitions_sample :
    let run archived := (queryDatabase ⟨.ofRandom 0, .sample "http://h/v1"⟩ (.ofRandom 1)
      ⟨none, [], archived⟩).run (.scripted sampleRecords)
    .unreachable ∉ sampleRecords ∧ (run false).requests = (run true).requests ∧
      ∃ live archived, (run false).outcome = .ok live ∧ (run true).outcome = .ok archived ∧
        live.map (·.id.text) = ["30000000000040008000000000000000"] ∧
        archived.map (·.id.text) = ["20000000000040008000000000000000"] := by
  intro run
  have hu : .unreachable ∉ sampleRecords := by simp [sampleRecords]
  obtain ⟨first, last, hdelivers, -, hview⟩ := exists_delivers_sampleRecords none []
  have hrun : ∀ archived, (run archived).ComesTo _ _ _ := fun archived =>
    @comesTo_queryDatabase _ _ ⟨none, [], archived⟩ _ _ _ _
      (Walk.comesTo_all (fun _ => rfl) hdelivers [])
  obtain ⟨hrequests, -, hends, -⟩ :=
    queryDatabase_partitions ⟨.ofRandom 0, .sample "http://h/v1"⟩ (.ofRandom 1) none [] hu
  refine ⟨hu, hrequests, ?_⟩
  rcases hends with ⟨failure, hfailure⟩ | ⟨_, _, _, live, archived, -, -, hlive, harchived, -⟩
  · cases (hfailure false).symm.trans (hrun false).outcome_eq
  · obtain rfl := Except.ok.inj ((hrun false).outcome_eq.symm.trans hlive)
    obtain rfl := Except.ok.inj ((hrun true).outcome_eq.symm.trans harchived)
    have hids : ∀ b, (([first, last].flatMap Listing.results).filter (·.archived == b)).map
        (·.id.text) = ((([first, last].flatMap Listing.results).map fun page =>
          (page.id.text, page.archived)).filter (·.2 == b)).map Prod.fst := by
      intro b
      rw [List.filter_map, List.map_map]
      rfl
    refine ⟨_, _, hlive, harchived, (hids false).trans ?_, (hids true).trans ?_⟩
    · rw [hview]
      rfl
    · rw [hview]
      rfl

/-- Every request of a query is for the query endpoint of the database. Its body has the filter and
the sorts of the options, and apart from the first one the cursor that the reply before it names.
There is such a request, if one can be put together; and which of the records are asked for, the
archived or the live ones, makes no difference to them. -/
theorem queryDatabase_asks {config configured : Config} {text : String} {project : Project}
    (hconfig : config.withBaseUrl text = .ok configured)
    (hproject : ofConfig configured = .ok project) (id : Identifier) (options : QueryOptions)
    {replies : List Reply} (hu : .unreachable ∉ replies) :
    let run := (project.queryDatabase id options).run (.scripted replies)
    (run.requests ≠ [] ↔
      (project.client.sent? (asksRecords id options.filter options.sorts none)).isSome) ∧
    (∀ archived, ((project.queryDatabase id { options with archived := archived }).run
      (.scripted replies)).requests = run.requests) ∧
    ∀ k request, run.requests[k]? = some request → ∃ cursor body,
      Walk.CursorAt (Listing.decode Page.decode) replies k cursor ∧
      request.IsFor configured.baseUrl .post ("databases/" ++ id.hyphenated ++ "/query")
        (some body) ∧
      body.IsQuery options.filter options.sorts cursor := by
  intro run
  have hrun : ∀ archived, ((project.queryDatabase id { options with archived := archived }).run
      (.scripted replies)).ComesTo _ _ _ := fun archived =>
    comesTo_queryDatabase ⟨rfl, rfl, rfl⟩
  have hrequests : run.requests = _ := (hrun options.archived).requests_eq
  obtain ⟨hsome, hplaces⟩ := Walk.requests_all (fun _ => rfl)
    (isSome_sent?_asksRecords project.client id options.filter options.sorts) hu
  rw [← hrequests] at hsome hplaces
  refine ⟨hsome, fun archived => (hrun archived).requests_eq.trans hrequests.symm,
    fun k request hk => ?_⟩
  obtain ⟨cursor, hcursor, hsent⟩ := hplaces k request hk
  let query : DatabaseQuery := ⟨options.filter, options.sorts, cursor⟩
  exact ⟨cursor, query.toJson, hcursor, isFor_of_sent? hconfig hproject (.query id query) hsent,
    query.isQuery_toJson⟩

/-- A filter that is null is sent, and an empty list of sorts is not. The second request has the
cursor that the first reply names. -/
theorem queryDatabase_asks_sample : ∃ configured,
    Client.sampleConfig.withBaseUrl "http://h/v1" = .ok configured ∧
      ofConfig configured = .ok ⟨.ofRandom 0, .sample "http://h/v1"⟩ ∧
      .unreachable ∉ sampleRecords ∧
      let run := (queryDatabase ⟨.ofRandom 0, .sample "http://h/v1"⟩ (.ofRandom 1)
        ⟨some .null, [], true⟩).run (.scripted sampleRecords)
      ∃ request body, run.requests[1]? = some request ∧
        request.IsFor configured.baseUrl .post
          "databases/10000000-0000-4000-8000-000000000000/query" (some body) ∧
        body.IsQuery (some .null) [] (some "c") := by
  have hu : .unreachable ∉ sampleRecords := by simp [sampleRecords]
  obtain ⟨configured, hconfig, hproject, -⟩ := exists_configured_sample
  refine ⟨configured, hconfig, hproject, hu, ?_⟩
  intro run
  obtain ⟨first, last, hdelivers, hnext, -⟩ := exists_delivers_sampleRecords (some .null) []
  have hrun : run.ComesTo _ _ _ := comesTo_queryDatabase
    (Walk.comesTo_all (fun _ => rfl) hdelivers [])
  obtain ⟨request, hrequest⟩ : ∃ request, run.requests[1]? = some request := by
    have hlength := congrArg List.length (Walk.map_some_requestsFor hdelivers.sent)
    rw [← hrun.requests_eq, List.length_map, List.length_map] at hlength
    exact ⟨_, List.getElem?_eq_getElem (by rw [hlength]; exact Nat.one_lt_two)⟩
  obtain ⟨-, -, hplaces⟩ := queryDatabase_asks hconfig hproject (.ofRandom 1) ⟨some .null, [], true⟩
    hu
  obtain ⟨cursor, body, ⟨_, part, next, ⟨⟩, hcarries, hpart, rfl⟩, hfor, hquery⟩ :=
    hplaces 1 request hrequest
  obtain rfl : part = first := hcarries.unique (List.forall₂_cons.1 hdelivers.carried).1
  obtain rfl : next = "c" := Option.some.inj (hpart.symm.trans hnext)
  have hid : "databases/" ++ (Identifier.ofRandom 1).hyphenated ++ "/query" =
      "databases/10000000-0000-4000-8000-000000000000/query" := by decide +kernel
  rw [hid] at hfor
  exact ⟨request, body, hrequest, hfor, hquery⟩

/-- At a host that no request can hold nothing is asked. -/
theorem queryDatabase_unsendable : ∃ configured,
    Client.sampleConfig.withBaseUrl "http://a\x7db/v1" = .ok configured ∧
      ofConfig configured = .ok unsendable ∧
      ((unsendable.queryDatabase (.ofRandom 1) ⟨none, [], false⟩).run
        (.scripted sampleRecords)).requests = [] := by
  obtain ⟨configured, hconfig, hproject⟩ := exists_configured_unsendable
  exact ⟨configured, hconfig, hproject, List.length_eq_zero_iff.1 (by decide +kernel)⟩

end Project

end NotionProject
