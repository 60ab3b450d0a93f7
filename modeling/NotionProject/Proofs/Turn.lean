import NotionProject.Endpoint

/-!
# Turns

A call asks and the server answers, one request and one reply at a time. `Client.sent?` is
the request with which an exchange reaches the server, `Reply.verdict` what a reply to it
comes to, and a `Turn` is the one with the other.

An exchange whose request cannot be put together fails and leaves the server alone
(`comesTo_perform_unsent`). Every other exchange sends its one request, takes one reply, and
comes to the verdict on it (`comesTo_perform`). The verdict is a value exactly if the reply
is an answer with a status of success whose text reads as that value
(`Reply.verdict_eq_ok_iff`).

`Run.ComesTo` describes a run with its log left out. `ComesTo.bind`, `ComesTo.bind_error` and
`comesTo_attempt` put such descriptions together along a call; `outcome_bind_eq_ok_iff` takes a
call with a result apart.
-/

namespace NotionProject

variable {α β : Type}

/-! ## Runs without their log -/

/-- The run has the outcome, makes the requests, and leaves the server as given. -/
structure Run.ComesTo (run : Run α) (outcome : Except Failure α) (requests : List Request)
    (server : Server) : Prop where
  outcome_eq : run.outcome = outcome
  requests_eq : run.requests = requests
  server_eq : run.server = server

namespace Call

open Run

variable {call : Call α} {next : α → Call β} {server middle left : Server}

theorem comesTo_pure (value : α) (server : Server) :
    ((pure value : Call α).run server).ComesTo (.ok value) [] server :=
  ⟨rfl, rfl, rfl⟩

theorem comesTo_fail (failure : Failure) (server : Server) :
    ((fail failure : Call α).run server).ComesTo (.error failure) [] server :=
  ⟨rfl, rfl, rfl⟩

theorem comesTo_log (level : Level) (text : String) (server : Server) :
    ((log level text).run server).ComesTo (.ok ()) [] server :=
  ⟨rfl, rfl, rfl⟩

theorem comesTo_logAll (level : Level) (texts : List String) (server : Server) :
    ((logAll level texts).run server).ComesTo (.ok ()) [] server := by
  refine ⟨rfl, ?_, rfl⟩
  simp only [Run.requests, logAll, List.filterMap_map, List.filterMap_eq_nil_iff]
  exact fun _ _ => rfl

theorem comesTo_ofExcept (known : Except Failure α) (server : Server) :
    ((ofExcept known).run server).ComesTo known [] server := by
  cases known with
  | ok value => exact ⟨rfl, rfl, rfl⟩
  | error failure => exact ⟨rfl, rfl, rfl⟩

/-- Two calls have a result if the first one has one and the second one has one after it. -/
theorem outcome_bind_eq_ok_iff {value : β} :
    ((call >>= next).run server).outcome = .ok value ↔ ∃ first,
      (call.run server).outcome = .ok first ∧
        ((next first).run (call.run server).server).outcome = .ok value := by
  cases hc : (call.run server).outcome with
  | error failure => simp [run_bind_of_error hc]
  | ok first => simp [run_bind_of_ok hc]

/-- A failure that is asked for is a result. -/
theorem comesTo_attempt {outcome : Except Failure α} {requests : List Request}
    (h : (call.run server).ComesTo outcome requests left) :
    (call.attempt.run server).ComesTo (.ok outcome) requests left := by
  refine ⟨?_, h.requests_eq, h.server_eq⟩
  rw [run_attempt, h.outcome_eq]

end Call

namespace Run.ComesTo

open Call

variable {call : Call α} {next : α → Call β} {server middle left : Server}

/-- After a result the next call goes on, and its requests come after those made. -/
theorem bind {value : α} {outcome : Except Failure β} {first second : List Request}
    (hc : (call.run server).ComesTo (.ok value) first middle)
    (hn : ((next value).run middle).ComesTo outcome second left) :
    ((call >>= next).run server).ComesTo outcome (first ++ second) left := by
  rw [← hc.server_eq] at hn
  rw [run_bind_of_ok hc.outcome_eq]
  refine ⟨hn.outcome_eq, ?_, hn.server_eq⟩
  rw [← hc.requests_eq, ← hn.requests_eq]
  exact List.filterMap_append

/-- After a failure nothing more is asked. -/
theorem bind_error {failure : Failure} {requests : List Request}
    (hc : (call.run server).ComesTo (.error failure) requests left) :
    ((call >>= next).run server).ComesTo (.error failure) requests left := by
  rw [run_bind_of_error hc.outcome_eq]
  exact ⟨rfl, hc.requests_eq, hc.server_eq⟩

/-- A first call without requests leaves all requests to the next one. -/
theorem after {value : α} {outcome : Except Failure β} {requests : List Request}
    (hc : (call.run server).ComesTo (.ok value) [] server)
    (hn : ((next value).run server).ComesTo outcome requests left) :
    ((call >>= next).run server).ComesTo outcome requests left := by
  simpa using hc.bind hn

/-- A next call without requests only changes the outcome. -/
theorem andFinally {value : α} {outcome : Except Failure β} {requests : List Request}
    (hc : (call.run server).ComesTo (.ok value) requests left)
    (hn : ((next value).run left).ComesTo outcome [] left) :
    ((call >>= next).run server).ComesTo outcome requests left := by
  simpa using hc.bind hn

/-- A line of the log about the result changes nothing of what is asked. -/
theorem logResult {outcome : Except Failure α} {requests : List Request}
    (hc : (call.run server).ComesTo outcome requests left) (level : Level) (line : α → String)
    (f : α → β) :
    ((call >>= fun value => Call.log level (line value) >>= fun _ => pure (f value)).run
      server).ComesTo (outcome.map f) requests left := by
  cases outcome with
  | error failure => exact hc.bind_error
  | ok value => exact hc.andFinally ((comesTo_log level _ left).after (comesTo_pure _ left))

end Run.ComesTo

/-! ## Verdicts -/

/-- What an answer comes to: a value of the expected type, or the error that it is. -/
def Answer.verdict (decode : Decoder α) (answer : Answer) : Except Failure α :=
  if answer.isSuccess then
    match Decoder.ofText decode answer.body with
    | .ok value => .ok value
    | .error error =>
      .error (.malformed (error.message ++ " (body: " ++ Answer.preview answer.body ++ ")"))
  else
    match Decoder.ofText ErrorBody.decode answer.body with
    | .ok body => .error (.api (answer.describedError body))
    | .error _ => .error (.api answer.plainError)

/-- Reading an answer comes to its verdict and needs no server. -/
theorem Answer.comesTo_read (decode : Decoder α) (answer : Answer) (server : Server) :
    ((Answer.read decode answer).run server).ComesTo (answer.verdict decode) [] server := by
  unfold Answer.read Answer.verdict
  split
  · unfold Answer.readSuccess
    cases Decoder.ofText decode answer.body with
    | ok value => exact Call.comesTo_pure value server
    | error error => exact (Call.comesTo_log _ _ server).after (Call.comesTo_fail _ server)
  · unfold Answer.readError
    cases Decoder.ofText ErrorBody.decode answer.body with
    | ok body => exact (Call.comesTo_log _ _ server).after (Call.comesTo_fail _ server)
    | error error => exact Call.comesTo_fail _ server

/-- Only a status of success with a text that can be read comes to a value. -/
theorem Answer.verdict_eq_ok_iff {decode : Decoder α} {answer : Answer} {value : α} :
    answer.verdict decode = .ok value ↔
      answer.isSuccess = true ∧ Decoder.ofText decode answer.body = .ok value := by
  unfold Answer.verdict
  cases answer.isSuccess with
  | true => cases Decoder.ofText decode answer.body <;> simp
  | false => cases Decoder.ofText ErrorBody.decode answer.body <;> simp

namespace Reply

variable {decode : Decoder α} {request : Request} {reply : Reply} {value : α}

/-- What a reply to a request comes to. -/
def verdict (decode : Decoder α) (request : Request) (reply : Reply) : Except Failure α :=
  match reply.arrived with
  | .answer status body => Answer.verdict decode ⟨status, request.target, body⟩
  | .dropped => .error (Client.noAnswer request .dropped)
  | .unreachable => .error (Client.noAnswer request .unreachable)

/-- The reply is an answer with a status of success, and its text reads as the value. -/
def Carries (decode : Decoder α) (reply : Reply) (value : α) : Prop :=
  ∃ status body, reply.arrived = .answer status body ∧ 200 ≤ status ∧ status ≤ 299 ∧
    Decoder.ofText decode body = .ok value

/-- A verdict is a value exactly if the reply carries it. -/
theorem verdict_eq_ok_iff : reply.verdict decode request = .ok value ↔
    reply.Carries decode value := by
  unfold verdict Carries
  cases reply.arrived with
  | dropped => simp
  | unreachable => simp
  | answer status body =>
    simp only [Answer.verdict_eq_ok_iff, Answer.isSuccess, Bool.and_eq_true, decide_eq_true_eq]
    constructor
    · rintro ⟨⟨h1, h2⟩, hv⟩
      exact ⟨status, body, rfl, h1, h2, hv⟩
    · rintro ⟨_, _, h, h1, h2, hv⟩
      cases h
      exact ⟨⟨h1, h2⟩, hv⟩

/-- An answer of status 200 carries what its text reads as. -/
theorem carries_of_ofText {text : String} (h : Decoder.ofText decode text = .ok value) :
    (answer 200 text).Carries decode value :=
  ⟨200, text, arrived_answer (by decide) (by decide) text, by decide, by decide, h⟩

/-- A value that is carried is known by what is seen of it. -/
theorem exists_carries {text : String} {view : α → β} {seen : β}
    (h : (Decoder.ofText decode text).toOption.map view = some seen) :
    ∃ value, (answer 200 text).Carries decode value ∧ view value = seen := by
  cases hd : Decoder.ofText decode text with
  | error error =>
    rw [hd] at h
    cases h
  | ok value =>
    rw [hd] at h
    exact ⟨value, carries_of_ofText hd, Option.some.inj h⟩

/-- On the way a reply may lose its text or its status, but no connection is lost. -/
theorem arrived_ne_unreachable (h : reply ≠ .unreachable) : reply.arrived ≠ .unreachable := by
  cases reply with
  | unreachable => exact absurd rfl h
  | dropped => exact h
  | answer status body =>
    simp only [arrived]
    split
    · simp
    · split <;> simp

theorem Carries.ne_unreachable (h : reply.Carries decode value) : reply ≠ .unreachable := by
  obtain ⟨status, body, ha, -⟩ := h
  rintro rfl
  cases ha

/-- A reply carries one value at most. -/
theorem Carries.unique {other : α} (h : reply.Carries decode value)
    (h' : reply.Carries decode other) : value = other := by
  obtain ⟨status, body, ha, -, -, hv⟩ := h
  obtain ⟨_, _, ha', -, -, hv'⟩ := h'
  obtain ⟨rfl, rfl⟩ := answer.inj (ha.symm.trans ha')
  exact Except.ok.inj (hv.symm.trans hv')

/-- A server that has no replies left answers with no success. -/
theorem not_carries_exhausted (decode : Decoder α) (value : α) :
    ¬Server.exhausted.Carries decode value := by
  rintro ⟨status, body, h, -, hs, -⟩
  have harrived : Server.exhausted.arrived = .answer 500 "" := by decide
  rw [harrived, answer.injEq] at h
  omega

end Reply

theorem Server.headD_ne_unreachable {replies : List Reply} (hu : .unreachable ∉ replies) :
    replies.headD exhausted ≠ .unreachable := by
  cases replies with
  | nil => simp [exhausted]
  | cons reply rest => exact fun h => hu (by simp_all)

/-! ## Performing an exchange -/

namespace Client

variable {client : Client} {exchange : Exchange α} {decode : Decoder α} {request : Request}

/-- The request with which an exchange reaches the server. There is none if the address is no
URL or if the request cannot be put together. -/
def sent? (client : Client) (exchange : Exchange α) : Option Request :=
  (client.request? exchange).filter Request.isSendable

/-- The failure of an exchange that has no request to send. -/
def unsent (client : Client) (exchange : Exchange α) : Failure :=
  match client.request? exchange with
  | none => .network ⟨client.address exchange.endpoint, .unbuilt⟩
  | some request => noAnswer request .unbuilt

theorem unsent_ne_notFound (client : Client) (exchange : Exchange α) (kind : Kind)
    (title : String) : client.unsent exchange ≠ .notFound kind title := by
  unfold unsent
  split <;> simp [noAnswer]

/-- Without a request nothing is sent and no reply is taken. -/
theorem comesTo_perform_unsent (h : client.sent? exchange = none) (server : Server) :
    ((client.perform exchange).run server).ComesTo (.error (client.unsent exchange)) [] server := by
  refine (Call.comesTo_log _ _ server).after ?_
  unfold sent? at h
  unfold unsent
  cases hr : client.request? exchange with
  | none => exact Call.comesTo_fail _ server
  | some request =>
    have hs : request.isSendable = false := by simpa [hr] using h
    simpa [hs] using Call.comesTo_fail _ server

/-- Sending takes the next reply. -/
theorem comesTo_send (request : Request) {replies : List Reply}
    (h : replies.headD Server.exhausted ≠ .unreachable) :
    ((send request).run (.scripted replies)).ComesTo
      (match (replies.headD Server.exhausted).arrived with
        | .answer status body => .ok ⟨status, request.target, body⟩
        | .dropped => .error (noAnswer request .dropped)
        | .unreachable => .error (noAnswer request .unreachable))
      [request] (.scripted replies.tail) := by
  have htake : (Server.scripted replies).take =
      (replies.headD Server.exhausted, .scripted replies.tail) := by
    cases replies <;> rfl
  unfold send
  simp only [htake]
  cases ha : (replies.headD Server.exhausted).arrived with
  | unreachable => exact absurd ha (Reply.arrived_ne_unreachable h)
  | dropped => exact ⟨rfl, rfl, rfl⟩
  | answer status body => exact ⟨rfl, rfl, rfl⟩

/-- An exchange sends its request, takes the next reply, and comes to the verdict on it. -/
theorem comesTo_perform (hread : exchange.read = Answer.read decode)
    (hsent : client.sent? exchange = some request) {replies : List Reply}
    (h : replies.headD Server.exhausted ≠ .unreachable) :
    ((client.perform exchange).run (.scripted replies)).ComesTo
      ((replies.headD Server.exhausted).verdict decode request) [request]
      (.scripted replies.tail) := by
  refine (Call.comesTo_log _ _ _).after ?_
  obtain ⟨hr, hs⟩ := Option.filter_eq_some_iff.1 hsent
  simp only [hr, hs, if_true]
  have hsend := comesTo_send request h
  unfold Reply.verdict
  cases ha : (replies.headD Server.exhausted).arrived with
  | unreachable =>
    rw [ha] at hsend
    exact hsend.bind_error
  | dropped =>
    rw [ha] at hsend
    exact hsend.bind_error
  | answer status body =>
    rw [ha] at hsend
    rw [hread]
    exact hsend.andFinally (Answer.comesTo_read decode _ _)

/-- An exchange has a value only if it is sent and the next reply carries the value. -/
theorem exists_carried_of_ok (hread : exchange.read = Answer.read decode) {replies : List Reply}
    (hu : .unreachable ∉ replies) {value : α}
    (h : ((client.perform exchange).run (.scripted replies)).outcome = .ok value) :
    ∃ request reply rest, replies = reply :: rest ∧ client.sent? exchange = some request ∧
      reply.Carries decode value := by
  cases hs : client.sent? exchange with
  | none =>
    rw [(comesTo_perform_unsent hs _).outcome_eq] at h
    cases h
  | some request =>
    have hrun := comesTo_perform hread hs (Server.headD_ne_unreachable hu)
    rw [hrun.outcome_eq, Reply.verdict_eq_ok_iff] at h
    cases replies with
    | nil => exact absurd h (Reply.not_carries_exhausted decode value)
    | cons reply rest => exact ⟨request, reply, rest, rfl, rfl, h⟩

/-- An exchange whose reply carries a value comes to the value. -/
theorem comesTo_carried (hread : exchange.read = Answer.read decode)
    (hsent : client.sent? exchange = some request) {reply : Reply} {value : α}
    (hc : reply.Carries decode value) (rest : List Reply) :
    ((client.perform exchange).run (.scripted (reply :: rest))).ComesTo (.ok value) [request]
      (.scripted rest) := by
  rw [← Reply.verdict_eq_ok_iff.2 hc]
  exact comesTo_perform hread hsent hc.ne_unreachable

end Client

/-! ## Inquiries and turns -/

/-- What can be asked of the API: one inquiry for each endpoint. -/
inductive Inquiry where
  | page (id : Identifier)
  | database (id : Identifier)
  | children (parent : Identifier) (cursor : Option String)
  | createPage (new : NewPage)
  | createDatabase (new : NewDatabase)
  | updatePage (id : Identifier) (update : PageUpdate)
  | query (id : Identifier) (question : DatabaseQuery)

namespace Inquiry

/-- The type as which the answer is read. -/
def Result : Inquiry → Type
  | page _ => Page
  | database _ => Database
  | children _ _ => Listing Block
  | createPage _ => Page
  | createDatabase _ => Database
  | updatePage _ _ => Page
  | query _ _ => Listing Page

/-- How the answer is read. -/
def decoder : (inquiry : Inquiry) → Decoder inquiry.Result
  | page _ => Page.decode
  | database _ => Database.decode
  | children _ _ => Listing.decode Block.decode
  | createPage _ => Page.decode
  | createDatabase _ => Database.decode
  | updatePage _ _ => Page.decode
  | query _ _ => Listing.decode Page.decode

/-- The exchange with the API. -/
def exchange : (inquiry : Inquiry) → Exchange inquiry.Result
  | page id => Endpoint.page id
  | database id => Endpoint.database id
  | children parent cursor => Endpoint.children parent cursor
  | createPage new => Endpoint.createPage new
  | createDatabase new => Endpoint.createDatabase new
  | updatePage id update => Endpoint.updatePage id update
  | query id question => Endpoint.query id question

theorem read_exchange (inquiry : Inquiry) :
    inquiry.exchange.read = Answer.read inquiry.decoder := by
  cases inquiry <;> rfl

end Inquiry

/-- A request, what was asked with it, and what came of it. -/
structure Turn where
  inquiry : Inquiry
  request : Request
  reply : Reply

namespace Turn

/-- What the reply comes to as an answer to the inquiry. -/
def verdict (turn : Turn) : Except Failure turn.inquiry.Result :=
  turn.reply.verdict turn.inquiry.decoder turn.request

/-- The reply is an answer with a status of success, and its text reads as a value of the
expected type. -/
def Succeeds (turn : Turn) : Prop :=
  ∃ value, turn.reply.Carries turn.inquiry.decoder value

theorem succeeds_iff (turn : Turn) : turn.Succeeds ↔ ∃ value, turn.verdict = .ok value :=
  exists_congr fun _ => Reply.verdict_eq_ok_iff.symm

end Turn

/-! ## A client -/

/-- A client with a base URL. -/
def Client.sample (base : String) : Client :=
  ⟨⟨"secret_0123456789abcdef", by decide +kernel⟩, base⟩

end NotionProject
