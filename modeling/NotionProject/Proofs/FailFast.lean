import NotionProject.Proofs.Operation
import NotionProject.Proofs.Paging

/-!
# Failing fast

Whatever the replies of a server, a call stops at the first one that is a failure.

The `Course` of a run is the list of its turns against the replies. `Run.StopsAtFailure`
says that all turns of a run but the last one succeed, and what the run comes to if the last
one does not. A single exchange stops so (`takesTurn_perform`), and calls that stop so can be
put one after the other (`StopsAtFailure.bind`); a walk does by induction on the replies
(`stopsAtFailure_follow`), the search among blocks by induction on the blocks.

`Operation.stops_at_first_failure` says it of every operation: no request is made after the
first failure, the outcome is the failure of that one answer, and there is at most one
request more than there are replies.
-/

namespace NotionProject

variable {α β : Type}

/-! ## The course of a run -/

/-- The replies of a server to a number of requests. -/
def Server.answers : List Reply → Nat → List Reply
  | _, 0 => []
  | replies, n + 1 => replies.headD exhausted :: answers replies.tail n

theorem Server.answers_add : ∀ (replies : List Reply) (m n : Nat),
    answers replies (m + n) = answers replies m ++ answers (replies.drop m) n
  | replies, 0, n => by simp [answers]
  | [], m + 1, n => by
    have ih := answers_add [] m n
    rw [Nat.succ_add]
    simpa [answers] using ih
  | reply :: rest, m + 1, n => by
    rw [Nat.succ_add]
    simp [answers, answers_add rest m n]

/-- Beyond the replies the server is exhausted. -/
theorem Server.getElem?_answers : ∀ (replies : List Reply) {n i : Nat}, i < n →
    (answers replies n)[i]? = some (replies.getD i exhausted)
  | replies, n + 1, 0, _ => by cases replies <;> simp [answers]
  | [], n + 1, i + 1, h => by
    simpa [answers] using getElem?_answers [] (Nat.lt_of_succ_lt_succ h)
  | reply :: rest, n + 1, i + 1, h => by
    simpa [answers] using getElem?_answers rest (Nat.lt_of_succ_lt_succ h)

/-- Turns against replies: each request is the one of its inquiry, and the replies are taken
one after the other. -/
structure Course (client : Client) (replies : List Reply) (turns : List Turn) : Prop where
  sent : ∀ turn ∈ turns, client.sent? turn.inquiry.exchange = some turn.request
  replies_eq : turns.map Turn.reply = Server.answers replies turns.length

namespace Course

variable {client : Client} {replies : List Reply} {first second : List Turn}

theorem nil : Course client replies [] :=
  ⟨by simp, rfl⟩

theorem append (hf : Course client replies first)
    (hs : Course client (replies.drop first.length) second) :
    Course client replies (first ++ second) where
  sent turn ht := (List.mem_append.1 ht).elim (hf.sent turn) (hs.sent turn)
  replies_eq := by
    rw [List.map_append, hf.replies_eq, hs.replies_eq, List.length_append, Server.answers_add]

/-- The reply of a turn is the one at its place. -/
theorem reply_eq {turns : List Turn} (h : Course client replies turns) {i : Nat}
    (hi : i < turns.length) : turns[i].reply = replies.getD i Server.exhausted := by
  have := congrArg (·[i]?) h.replies_eq
  simpa [Server.getElem?_answers, hi] using this

/-- If all turns but the last one succeed, there is at most one more turn than replies. -/
theorem length_le {turns : List Turn} (h : Course client replies turns)
    (hall : ∀ turn ∈ turns.dropLast, turn.Succeeds) : turns.length ≤ replies.length + 1 := by
  by_contra hlt
  have hi : replies.length < turns.dropLast.length := by
    rw [List.length_dropLast]
    omega
  have hout : turns.dropLast[replies.length].reply = Server.exhausted := by
    rw [List.getElem_dropLast, h.reply_eq]
    simp
  obtain ⟨value, hv⟩ := hall _ (List.getElem_mem hi)
  rw [hout] at hv
  exact Reply.not_carries_exhausted _ value hv

end Course

/-! ## Stopping at a failure -/

/-- All turns succeed, or all but the last one do and the outcome is what comes of its failure;
what that is may depend on the number of the turn. -/
def EndsWith (after : Nat → Failure → Except Failure α) (turns : List Turn)
    (outcome : Except Failure α) : Prop :=
  (∀ turn ∈ turns, turn.Succeeds) ∨
    ∃ before last failure, turns = before ++ [last] ∧ (∀ turn ∈ before, turn.Succeeds) ∧
      last.verdict = .error failure ∧ outcome = after turns.length failure

theorem EndsWith.succeeds_of_mem_dropLast {after : Nat → Failure → Except Failure α}
    {turns : List Turn} {outcome : Except Failure α} (h : EndsWith after turns outcome) :
    ∀ turn ∈ turns.dropLast, turn.Succeeds := by
  rcases h with hall | ⟨before, last, failure, rfl, hb, -, -⟩
  · exact fun turn ht => hall turn (List.dropLast_subset _ ht)
  · simpa using hb

/-- A failure that is passed on as it is. -/
def passedOn (_ : Nat) (failure : Failure) : Except Failure α :=
  .error failure

/-- The run against the replies has a course that stops at the first failure. -/
def Run.StopsAtFailure (client : Client) (replies : List Reply)
    (after : Nat → Failure → Except Failure α) (run : Run α) : Prop :=
  ∃ turns outcome, Course client replies turns ∧ EndsWith after turns outcome ∧
    run.ComesTo outcome (turns.map Turn.request) (.scripted (replies.drop turns.length))

/-- The call stops at the first failure, whatever the replies. -/
def Call.StopsAtFailure (client : Client) (after : Nat → Failure → Except Failure α)
    (call : Call α) : Prop :=
  ∀ replies : List Reply, .unreachable ∉ replies →
    (call.run (.scripted replies)).StopsAtFailure client replies after

namespace Call

variable {client : Client} {call : Call α} {next : α → Call β}
  {after : Nat → Failure → Except Failure α}

/-- The call asks for nothing, and comes to the same against every server. -/
def IsQuiet (outcome : Except Failure α) (call : Call α) : Prop :=
  ∀ server, (call.run server).ComesTo outcome [] server

theorem IsQuiet.stopsAtFailure {outcome : Except Failure α} (h : call.IsQuiet outcome) :
    call.StopsAtFailure client after := by
  intro replies _
  exact ⟨[], outcome, .nil, Or.inl (by simp), h _⟩

theorem stopsAtFailure_pure (value : α) : (pure value : Call α).StopsAtFailure client after :=
  IsQuiet.stopsAtFailure (comesTo_pure value)

theorem stopsAtFailure_ofExcept (known : Except Failure α) :
    (ofExcept known).StopsAtFailure client after :=
  IsQuiet.stopsAtFailure (comesTo_ofExcept known)

theorem stopsAtFailure_log (level : Level) (text : String) :
    (log level text).StopsAtFailure client passedOn :=
  IsQuiet.stopsAtFailure (comesTo_log level text)

/-- If a call passes its failures on, so does what follows it, and the last failure is that of
the one of the two that fails. -/
theorem StopsAtFailure.bind (hc : call.StopsAtFailure client passedOn)
    (hn : ∀ value, (next value).StopsAtFailure client passedOn) :
    (call >>= next).StopsAtFailure client passedOn := by
  intro replies hu
  obtain ⟨first, outcome, hcourse, hends, hrun⟩ := hc replies hu
  cases outcome with
  | error failure =>
    refine ⟨first, .error failure, hcourse, ?_, hrun.bind_error⟩
    rcases hends with hall | ⟨before, last, f, ht, hb, hv, ho⟩
    · exact Or.inl hall
    · exact Or.inr ⟨before, last, f, ht, hb, hv, by rw [Except.error.inj ho]; rfl⟩
  | ok value =>
    have hall : ∀ turn ∈ first, turn.Succeeds := by
      rcases hends with hall | ⟨_, _, _, _, _, _, ho⟩
      · exact hall
      · cases ho
    obtain ⟨second, outcome, hcourse', hends', hrun'⟩ :=
      hn value _ fun hm => hu (List.mem_of_mem_drop hm)
    refine ⟨first ++ second, outcome, hcourse.append hcourse', ?_, ?_⟩
    · rcases hends' with hall' | ⟨before, last, f, rfl, hb, hv, ho⟩
      · exact Or.inl fun turn ht => (List.mem_append.1 ht).elim (hall turn) (hall' turn)
      · exact Or.inr ⟨first ++ before, last, f, by simp,
          fun turn ht => (List.mem_append.1 ht).elim (hall turn) (hb turn), hv, ho⟩
    · rw [List.map_append, List.length_append, ← List.drop_drop]
      exact hrun.bind hrun'

/-- What comes of a failure matters from the first turn on. -/
theorem StopsAtFailure.congr {other : Nat → Failure → Except Failure α}
    (hc : call.StopsAtFailure client after)
    (h : ∀ number failure, 1 ≤ number → other number failure = after number failure) :
    call.StopsAtFailure client other := by
  intro replies hu
  obtain ⟨turns, outcome, hcourse, hends, hrun⟩ := hc replies hu
  refine ⟨turns, outcome, hcourse, ?_, hrun⟩
  rcases hends with hall | ⟨before, last, f, rfl, hb, hv, ho⟩
  · exact Or.inl hall
  · exact Or.inr ⟨before, last, f, rfl, hb, hv, by rw [ho, h _ _ (by simp)]⟩

/-- What is made of the outcome of a call, without asking for more, is made of its failure
too. -/
theorem StopsAtFailure.handle {handler : Except Failure α → Call β}
    (hc : call.StopsAtFailure client passedOn) (final : Except Failure α → Except Failure β)
    (hq : ∀ outcome, (handler outcome).IsQuiet (final outcome)) :
    (call.attempt >>= handler).StopsAtFailure client fun _ failure => final (.error failure) := by
  intro replies hu
  obtain ⟨turns, outcome, hcourse, hends, hrun⟩ := hc replies hu
  refine ⟨turns, final outcome, hcourse, ?_, (comesTo_attempt hrun).andFinally (hq outcome _)⟩
  rcases hends with hall | ⟨before, last, f, ht, hb, hv, ho⟩
  · exact Or.inl hall
  · exact Or.inr ⟨before, last, f, ht, hb, hv, by rw [ho]; rfl⟩

end Call

/-! ## One exchange -/

/-- The call has no request to send, or it takes one turn and comes to its verdict. -/
def Call.TakesTurn (client : Client) (call : Call α) : Prop :=
  ∀ replies : List Reply, .unreachable ∉ replies →
    (∃ failure, (call.run (.scripted replies)).ComesTo (.error failure) [] (.scripted replies)) ∨
    ∃ turn : Turn, Course client replies [turn] ∧
      ((turn.Succeeds ∧ ∃ value, (call.run (.scripted replies)).ComesTo (.ok value)
          [turn.request] (.scripted (replies.drop 1))) ∨
        ∃ failure, turn.verdict = .error failure ∧
          (call.run (.scripted replies)).ComesTo (.error failure) [turn.request]
            (.scripted (replies.drop 1)))

/-- Performing the exchange of an inquiry takes one turn. -/
theorem takesTurn_perform (client : Client) (inquiry : Inquiry) :
    (client.perform inquiry.exchange).TakesTurn client := by
  intro replies hu
  cases hs : client.sent? inquiry.exchange with
  | none => exact Or.inl ⟨_, Client.comesTo_perform_unsent hs _⟩
  | some request =>
    have hrun := Client.comesTo_perform inquiry.read_exchange hs (Server.headD_ne_unreachable hu)
    rw [← List.drop_one] at hrun
    let turn : Turn := ⟨inquiry, request, replies.headD Server.exhausted⟩
    have hcourse : Course client replies [turn] := ⟨by simpa [turn] using hs, rfl⟩
    refine Or.inr ⟨turn, hcourse, ?_⟩
    cases hv : turn.verdict with
    | ok value =>
      refine Or.inl ⟨turn.succeeds_iff.2 ⟨value, hv⟩, value, ?_⟩
      rw [← hv]
      exact hrun
    | error failure =>
      refine Or.inr ⟨failure, rfl, ?_⟩
      rw [← hv]
      exact hrun

/-- If the call fails, every run that comes to the same stops at its failure. Else its turn
succeeds. -/
theorem Call.TakesTurn.fails_or_succeeds {client : Client} {call : Call α}
    (h : call.TakesTurn client) {replies : List Reply} (hu : .unreachable ∉ replies) :
    (∃ failure requests left,
      (call.run (.scripted replies)).ComesTo (.error failure) requests left ∧
        ∀ {β : Type} {run : Run β}, run.ComesTo (.error failure) requests left →
          run.StopsAtFailure client replies passedOn) ∨
    ∃ turn value, Course client replies [turn] ∧ turn.Succeeds ∧
      (call.run (.scripted replies)).ComesTo (.ok value) [turn.request]
        (.scripted (replies.drop 1)) := by
  rcases h replies hu with
    ⟨failure, hrun⟩ | ⟨turn, hcourse, ⟨hs, value, hrun⟩ | ⟨failure, hv, hrun⟩⟩
  · refine Or.inl ⟨failure, [], _, hrun, fun h => ?_⟩
    exact ⟨[], .error failure, .nil, Or.inl (by simp), h⟩
  · exact Or.inr ⟨turn, value, hcourse, hs, hrun⟩
  · refine Or.inl ⟨failure, _, _, hrun, fun h => ?_⟩
    exact ⟨[turn], .error failure, hcourse, Or.inr ⟨[], turn, failure, rfl, by simp, hv, rfl⟩, h⟩

theorem Call.TakesTurn.stopsAtFailure {client : Client} {call : Call α}
    (h : call.TakesTurn client) : call.StopsAtFailure client passedOn := by
  intro replies hu
  rcases h.fails_or_succeeds hu with ⟨_, _, _, hrun, hstops⟩ | ⟨turn, value, hcourse, hs, hrun⟩
  · exact hstops hrun
  · exact ⟨[turn], .ok value, hcourse, Or.inl (by simpa using hs), hrun⟩

/-! ## Walks -/

/-- A walk stops at the first failure, wherever it comes. -/
theorem Walk.stopsAtFailure_follow {client : Client} {ask : Walk.Request α}
    (h : ∀ cursor, (client.perform (ask cursor)).TakesTurn client) :
    ∀ (replies : List Reply), .unreachable ∉ replies → ∀ (number : Nat) (cursor : Option String),
      (follow client ask replies number cursor).StopsAtFailure client replies passedOn
  | [], hu, number, cursor => by
    rcases (h cursor).fails_or_succeeds hu with
      ⟨_, _, _, hrun, hstops⟩ | ⟨turn, _, hcourse, ⟨value, hc⟩, -⟩
    · exact hstops (follow_error hrun)
    · -- the exhausted server gives no part
      have hreply : turn.reply = Server.exhausted := by
        simpa [Server.answers] using hcourse.replies_eq
      rw [hreply] at hc
      exact absurd hc (Reply.not_carries_exhausted _ _)
  | reply :: rest, hu, number, cursor => by
    rcases (h cursor).fails_or_succeeds hu with
      ⟨_, _, _, hrun, hstops⟩ | ⟨turn, listing, hcourse, hs, hrun⟩
    · exact hstops (follow_error hrun)
    by_cases hlast : listing.IsLast
    · exact ⟨[turn], .ok (single number listing), hcourse, Or.inl (by simpa using hs),
        follow_last number hrun hlast⟩
    obtain ⟨turns, outcome, hcourse', hends, hrun'⟩ :=
      stopsAtFailure_follow h rest (fun hm => hu (List.mem_cons_of_mem _ hm)) (number + 1)
        listing.nextCursor
    refine ⟨[turn] ++ turns, outcome.map (goOn listing), hcourse.append hcourse', ?_,
      follow_goOn hrun hlast hrun'⟩
    rcases hends with hall | ⟨before, last, failure, rfl, hb, hv, rfl⟩
    · exact Or.inl (by simpa using ⟨hs, hall⟩)
    · exact Or.inr ⟨turn :: before, last, failure, by simp, by simpa using ⟨hs, hb⟩, hv, rfl⟩

theorem Walk.stopsAtFailure_all {client : Client} {ask : Walk.Request α}
    (h : ∀ cursor, (client.perform (ask cursor)).TakesTurn client) :
    (Walk.all client ask).StopsAtFailure client passedOn :=
  fun replies hu => stopsAtFailure_follow h replies hu 1 none

/-! ## Operations -/

namespace Project

variable {project : Project}

theorem stopsAtFailure_titleOf (kind : Kind) (block : Block) :
    (project.titleOf kind block).StopsAtFailure project.client passedOn := by
  cases kind with
  | page => exact Call.stopsAtFailure_pure _
  | database =>
    exact (takesTurn_perform _ (.database block.id)).stopsAtFailure.bind fun database =>
      Call.stopsAtFailure_pure _

theorem stopsAtFailure_matchesAmong (kind : Kind) (title : String) (blocks : List Block) :
    (project.matchesAmong kind title blocks).StopsAtFailure project.client passedOn := by
  induction blocks with
  | nil => exact Call.stopsAtFailure_pure _
  | cons block rest ih =>
    unfold matchesAmong
    split
    · exact (stopsAtFailure_titleOf kind block).bind fun candidate => ih.bind fun others =>
        Call.stopsAtFailure_pure _
    · exact ih

theorem stopsAtFailure_matchingChildren (kind : Kind) (parent : Identifier) (title : String) :
    (project.matchingChildren kind parent title).StopsAtFailure project.client passedOn :=
  (Walk.stopsAtFailure_all fun cursor => takesTurn_perform _ (.children parent cursor)).bind
    fun walk => (Call.stopsAtFailure_log _ _).bind fun _ =>
      stopsAtFailure_matchesAmong kind title walk.items

theorem stopsAtFailure_writable (properties : Properties) :
    (writable properties).StopsAtFailure project.client passedOn :=
  Call.IsQuiet.stopsAtFailure fun server =>
    (Call.comesTo_logAll _ _ server).after (Call.comesTo_pure _ server)

theorem stopsAtFailure_givenProperties (properties : Option Properties) :
    (givenProperties properties).StopsAtFailure project.client passedOn := by
  unfold givenProperties
  split
  · exact Call.stopsAtFailure_pure _
  · exact Call.stopsAtFailure_pure _
  · exact (stopsAtFailure_writable _).bind fun _ => Call.stopsAtFailure_pure _

/-- A page that cannot be read does not exist, whatever the failure. -/
theorem comesTo_pageExists_of_error {id : Identifier} {failure : Failure}
    {requests : List Request} {server left : Server}
    (h : ((project.client.perform (Endpoint.page id)).run server).ComesTo (.error failure)
      requests left) :
    ((project.pageExists id).run server).ComesTo (.ok false) requests left := by
  refine (Call.comesTo_attempt h).andFinally ?_
  dsimp only
  split
  · exact (Call.comesTo_log _ _ left).after (Call.comesTo_pure false left)
  · exact (Call.comesTo_log _ _ left).after (Call.comesTo_pure false left)

/-- A page that can be read exists. -/
theorem comesTo_pageExists_of_ok {id : Identifier} {page : Page} {requests : List Request}
    {server left : Server}
    (h : ((project.client.perform (Endpoint.page id)).run server).ComesTo (.ok page) requests
      left) :
    ((project.pageExists id).run server).ComesTo (.ok true) requests left :=
  (Call.comesTo_attempt h).andFinally (Call.comesTo_pure true left)

/-- Whether a page exists is known after one turn. A failure, whichever it is, is a no. -/
theorem pageExists_takesTurn (project : Project) (id : Identifier) {replies : List Reply}
    (hu : .unreachable ∉ replies) :
    ((project.pageExists id).run (.scripted replies)).ComesTo (.ok false) [] (.scripted replies) ∨
    ∃ turn : Turn, Course project.client replies [turn] ∧
      ((turn.Succeeds ∧ ((project.pageExists id).run (.scripted replies)).ComesTo (.ok true)
          [turn.request] (.scripted (replies.drop 1))) ∨
        ∃ failure, turn.verdict = .error failure ∧
          ((project.pageExists id).run (.scripted replies)).ComesTo (.ok false) [turn.request]
            (.scripted (replies.drop 1))) := by
  rcases takesTurn_perform project.client (.page id) replies hu with
    ⟨failure, hrun⟩ | ⟨turn, hcourse, ⟨hs, page, hrun⟩ | ⟨failure, hv, hrun⟩⟩
  · exact Or.inl (comesTo_pageExists_of_error hrun)
  · exact Or.inr ⟨turn, hcourse, Or.inl ⟨hs, comesTo_pageExists_of_ok hrun⟩⟩
  · exact Or.inr ⟨turn, hcourse, Or.inr ⟨failure, hv, comesTo_pageExists_of_error hrun⟩⟩

/-- What is done only if a page exists stops at the first failure if it does so itself, and if
what is done otherwise asks for nothing more. -/
theorem stopsAtFailure_ifExists {after : Nat → Failure → Except Failure α} {yes no : Call α}
    (id : Identifier) (outcome : Except Failure α)
    (hyes : yes.StopsAtFailure project.client fun number => after (number + 1))
    (hno : no.IsQuiet outcome) (hafter : ∀ failure, after 1 failure = outcome) :
    (project.pageExists id >>= fun found => if found = true then yes else no).StopsAtFailure
      project.client after := by
  intro replies hu
  rcases project.pageExists_takesTurn id hu with
    hrun | ⟨turn, hcourse, ⟨hs, hrun⟩ | ⟨failure, hv, hrun⟩⟩
  · exact ⟨[], outcome, .nil, Or.inl (by simp), hrun.andFinally (hno _)⟩
  · obtain ⟨turns, outcome, hcourse', hends, hrun'⟩ :=
      hyes (replies.drop 1) fun hm => hu (List.mem_of_mem_drop hm)
    refine ⟨[turn] ++ turns, outcome, hcourse.append hcourse', ?_, ?_⟩
    · rcases hends with hall | ⟨before, last, failure, rfl, hb, hv, rfl⟩
      · exact Or.inl (by simpa using ⟨hs, hall⟩)
      · exact Or.inr ⟨turn :: before, last, failure, by simp, by simpa using ⟨hs, hb⟩, hv, rfl⟩
    · rw [List.map_append, List.length_append, ← List.drop_drop]
      exact hrun.bind hrun'
  · exact ⟨[turn], outcome, hcourse,
      Or.inr ⟨[], turn, failure, rfl, by simp, hv, (hafter failure).symm⟩,
      hrun.andFinally (hno _)⟩

end Project

namespace Operation

/-- Every operation stops at the first failure. -/
theorem stopsAtFailure_call (project : Project) (operation : Operation) :
    (operation.call project).StopsAtFailure project.client operation.afterFailure := by
  cases operation with
  | findOnly kind parent title =>
    exact (Project.stopsAtFailure_matchingChildren kind parent title).bind fun found =>
      Call.stopsAtFailure_ofExcept _
  | findAll kind parent title =>
    exact (Project.stopsAtFailure_matchingChildren kind parent title).bind fun found =>
      Call.stopsAtFailure_ofExcept _
  | sectionPage part =>
    exact (Project.stopsAtFailure_matchingChildren .page project.root part.title).bind
      fun found => Call.stopsAtFailure_ofExcept _
  | lookupPage id =>
    refine (takesTurn_perform _ (.page id)).stopsAtFailure.handle
      (fun outcome =>
        match outcome with
        | .ok page => .ok (PageLookup.found page)
        | .error failure =>
          if failure.isNotFound then .ok PageLookup.missing else .error failure) fun outcome => ?_
    cases outcome with
    | ok page => exact Call.comesTo_pure _
    | error failure =>
      intro server
      by_cases hf : failure.isNotFound
      · simpa [hf] using Call.comesTo_pure _ server
      · simpa [hf] using Call.comesTo_fail failure server
  | pageExists id =>
    intro replies hu
    rcases project.pageExists_takesTurn id hu with
      hrun | ⟨turn, hcourse, ⟨hs, hrun⟩ | ⟨failure, hv, hrun⟩⟩
    · exact ⟨[], _, .nil, Or.inl (by simp), hrun⟩
    · exact ⟨[turn], _, hcourse, Or.inl (by simpa using hs), hrun⟩
    · exact ⟨[turn], _, hcourse, Or.inr ⟨[], turn, failure, rfl, by simp, hv, rfl⟩, hrun⟩
  | hasStructure id =>
    refine Project.stopsAtFailure_ifExists id (.ok false) ?_ ?_ fun _ => rfl
    · refine (takesTurn_perform _ (.children id none)).stopsAtFailure.handle
        (fun outcome =>
          match outcome with
          | .error _ => .ok false
          | .ok listing => .ok (Project.missingSections listing.results).isEmpty) fun outcome => ?_
      cases outcome with
      | error failure =>
        exact fun server => (Call.comesTo_log _ _ server).after (Call.comesTo_pure false server)
      | ok listing =>
        intro server
        by_cases hm : (Project.missingSections listing.results).isEmpty
        · simp only [hm, if_true]
          exact Call.comesTo_pure true server
        · simp only [hm]
          exact (Call.comesTo_log _ _ server).after (Call.comesTo_pure false server)
    · exact fun server => (Call.comesTo_log _ _ server).after (Call.comesTo_pure false server)
  | createPage parent title =>
    refine Project.stopsAtFailure_ifExists parent (.error (.parentNotFound parent.text))
      ?_ (Call.comesTo_fail _) fun _ => rfl
    have hcreate : (project.client.perform (Inquiry.createPage
        ⟨.page parent, [("title", PropertyValue.title title)]⟩).exchange >>= fun page =>
          Call.log .info ("Created page '" ++ title ++ "' (" ++ page.id.text ++ ") under " ++
            parent.text) >>= fun _ => pure page.id).StopsAtFailure project.client passedOn :=
      (takesTurn_perform _ (.createPage _)).stopsAtFailure.bind fun page =>
        (Call.stopsAtFailure_log _ _).bind fun _ => Call.stopsAtFailure_pure _
    refine hcreate.congr fun number failure hn => ?_
    have hne : ¬number + 1 = 1 := by omega
    show Except.error (if number + 1 = 1 then _ else failure) = _
    rw [if_neg hne]
    rfl
  | createDatabase parent title schema =>
    exact (takesTurn_perform _ (.createDatabase _)).stopsAtFailure.bind fun database =>
      (Call.stopsAtFailure_log _ _).bind fun _ => Call.stopsAtFailure_pure _
  | database id => exact (takesTurn_perform _ (.database id)).stopsAtFailure
  | createRecord id properties parent =>
    exact (Project.stopsAtFailure_writable properties).bind fun properties =>
      (takesTurn_perform _ (.createPage _)).stopsAtFailure.bind fun page =>
        (Call.stopsAtFailure_log _ _).bind fun _ => Call.stopsAtFailure_pure _
  | updatePage id properties archived =>
    exact (Project.stopsAtFailure_givenProperties properties).bind fun properties =>
      (takesTurn_perform _ (.updatePage id _)).stopsAtFailure.bind fun page =>
        (Call.stopsAtFailure_log _ _).bind fun _ => Call.stopsAtFailure_pure _
  | queryDatabase id options =>
    exact (Walk.stopsAtFailure_all fun cursor =>
      takesTurn_perform _ (.query id (Project.partQuery options cursor))).bind fun walk =>
        (Call.stopsAtFailure_log _ _).bind fun _ => Call.stopsAtFailure_pure _
  | children parent cursor => exact (takesTurn_perform _ (.children parent cursor)).stopsAtFailure

/-- Against every list of replies an operation makes at most one request more than there are
replies. If the `k`-th reply is the first one that is a failure, `k` requests are made, and the
outcome is the failure of that reply, or what a lookup, an existence check, a check of the
structure, or the check for a parent makes of it. -/
theorem stops_at_first_failure (project : Project) (operation : Operation)
    {replies : List Reply} (hu : Reply.unreachable ∉ replies) :
    let run := (operation.call project).run (.scripted replies)
    ∃ turns : List Turn, Course project.client replies turns ∧
      run.requests = turns.map Turn.request ∧
      run.server = .scripted (replies.drop turns.length) ∧
      turns.length ≤ replies.length + 1 ∧
      ∀ (k : Nat) (hk : k < turns.length), (∀ turn ∈ turns.take k, turn.Succeeds) →
        ¬turns[k].Succeeds → turns.length = k + 1 ∧ ∃ failure,
          turns[k].verdict = .error failure ∧
            run.outcome = operation.afterFailure (k + 1) failure := by
  intro run
  obtain ⟨turns, outcome, hcourse, hends, hrun⟩ := stopsAtFailure_call project operation replies hu
  refine ⟨turns, hcourse, hrun.requests_eq, hrun.server_eq, ?_, fun k hk hbefore hfails => ?_⟩
  · exact hcourse.length_le hends.succeeds_of_mem_dropLast
  · rcases hends with hall | ⟨before, last, failure, rfl, hb, hv, ho⟩
    · exact absurd (hall _ (List.getElem_mem hk)) hfails
    · rcases Nat.lt_or_ge k before.length with hlt | hge
      · rw [List.getElem_append_left hlt] at hfails
        exact absurd (hb _ (List.getElem_mem hlt)) hfails
      · obtain rfl : k = before.length := by
          simp only [List.length_append, List.length_singleton] at hk
          omega
        refine ⟨by simp, failure, ?_, ?_⟩
        · rw [List.getElem_concat_length rfl]
          exact hv
        · rw [hrun.outcome_eq, ho]
          simp

/-- If the connection is lost when the parent is asked for, no page is created. -/
theorem stops_at_first_failure_createPage :
    let project : Project := ⟨.ofRandom 0, .sample "http://a/v1"⟩
    let run := ((createPage (.ofRandom 1) "A").call project).run (.scripted [.dropped])
    Reply.unreachable ∉ [Reply.dropped] ∧ run.requests.length = 1 ∧
      run.outcome = .error (.parentNotFound (Identifier.ofRandom 1).text) := by
  intro project run
  have hu : Reply.unreachable ∉ [Reply.dropped] := by decide
  have hlength : run.requests.length = 1 := by decide +kernel
  obtain ⟨turns, hcourse, hrequests, -, -, hstops⟩ :=
    stops_at_first_failure project (createPage (.ofRandom 1) "A") hu
  have hone : turns.length = 1 := by
    rw [← hlength, show run.requests = _ from hrequests, List.length_map]
  have hfails : ¬turns[0].Succeeds := by
    rintro ⟨value, status, body, harrived, -⟩
    rw [hcourse.reply_eq (by omega)] at harrived
    cases harrived
  obtain ⟨-, failure, -, houtcome⟩ := hstops 0 (by omega) (by simp) hfails
  exact ⟨hu, hlength, houtcome⟩

end Operation

end NotionProject
