import NotionProject.Proofs.Classification
import NotionProject.Proofs.Updating

/-!
# Whether a page exists

Two calls ask for a page. `Project.lookupPage` tells three things apart: a page, the report that
there is none, and any other failure. `Project.pageExists` has two answers, and takes every failure
for a no. Both are one exchange, and only what they make of its outcome differs (`run_lookupPage`,
`run_pageExists`), so that they agree on every reply (`Project.lookupPage_and_pageExists`): the
second one says yes just if the first one has found a page, and it warns just if the first one
fails.

What the outcome of the exchange is follows from the reply, or from there being no request to send
(`Client.verdict`). Which replies report that there is no page, `Reply.ReportsMissing` says in terms
of status and text (`Reply.verdict_isNotFound_iff`).
-/

namespace NotionProject

variable {α β : Type}

/-! ## Warnings -/

/-- The text of a warning. -/
def Event.warning? : Event → Option String
  | sent _ => none
  | logged line => if line.level = .warn then some line.text else none

/-- The warnings in the log of the run, in order. -/
def Run.warnings (run : Run α) : List String :=
  run.events.filterMap Event.warning?

/-- The call has no warnings to give. -/
def Call.NeverWarns (call : Call α) : Prop :=
  ∀ server, (call.run server).warnings = []

namespace Call

variable {call : Call α} {next : α → Call β}

/-- After a result the warnings of the next call come behind those before. -/
theorem warnings_bind_of_ok {server : Server} {value : α}
    (h : (call.run server).outcome = .ok value) : ((call >>= next).run server).warnings =
      (call.run server).warnings ++ ((next value).run (call.run server).server).warnings := by
  rw [run_bind_of_ok h]
  exact List.filterMap_append

namespace NeverWarns

theorem pure (value : α) : (Pure.pure value : Call α).NeverWarns :=
  fun _ => rfl

theorem fail (failure : Failure) : (Call.fail failure : Call α).NeverWarns :=
  fun _ => rfl

theorem log {level : Level} (h : level ≠ .warn) (text : String) :
    (Call.log level text).NeverWarns := by
  intro server
  simp [Run.warnings, Event.warning?, h]

/-- Calls in a row do not warn if none of them does. -/
theorem bind (hc : call.NeverWarns) (hn : ∀ value, (next value).NeverWarns) :
    (call >>= next).NeverWarns := by
  intro server
  cases ho : (call.run server).outcome with
  | error failure =>
    rw [run_bind_of_error ho]
    exact hc server
  | ok value =>
    rw [warnings_bind_of_ok ho, hc server, hn value]
    rfl

end NeverWarns

end Call

theorem Answer.neverWarns_read (decode : Decoder α) (answer : Answer) :
    (answer.read decode).NeverWarns := by
  unfold read
  split
  · unfold readSuccess
    split
    · exact .pure _
    · exact (Call.NeverWarns.log (by decide) _).bind fun _ => .fail _
  · unfold readError
    split
    · exact (Call.NeverWarns.log (by decide) _).bind fun _ => .fail _
    · exact .fail _

theorem Client.neverWarns_send (request : Request) : (send request).NeverWarns := by
  intro server
  simp only [send]
  split <;> rfl

/-- An exchange has no warnings to give. -/
theorem Client.neverWarns_perform (client : Client) {exchange : Exchange α} {decode : Decoder α}
    (hread : exchange.read = Answer.read decode) : (client.perform exchange).NeverWarns := by
  refine (Call.NeverWarns.log (by decide) _).bind fun _ => ?_
  split
  · exact .fail _
  · split
    · refine (neverWarns_send _).bind fun answer => ?_
      rw [hread]
      exact answer.neverWarns_read decode
    · exact .fail _

/-! ## What a reply comes to -/

/-- The reply is an answer that reports that the object does not exist: its status is none of
success, and its text says so by the code of an error, or it describes no error and the status is
404. -/
def Reply.ReportsMissing (reply : Reply) : Prop :=
  ∃ status body, reply.arrived = .answer status body ∧ ¬(200 ≤ status ∧ status ≤ 299) ∧
    ((∃ error, Decoder.ofText ErrorBody.decode body = .ok error ∧
        error.code = "object_not_found") ∨
      (∀ error, Decoder.ofText ErrorBody.decode body ≠ .ok error) ∧ status = 404)

theorem Reply.verdict_isNotFound_iff {decode : Decoder α} {request : Request} {reply : Reply} :
    (∃ failure, reply.verdict decode request = .error failure ∧ failure.isNotFound = true) ↔
      reply.ReportsMissing := by
  unfold verdict ReportsMissing
  cases reply.arrived with
  | dropped => simp [Client.noAnswer, Failure.isNotFound]
  | unreachable => simp [Client.noAnswer, Failure.isNotFound]
  | answer status body =>
    refine (Answer.explains_verdict decode ⟨status, request.target, body⟩).isClassified
      |>.isNotFound_iff.trans ?_
    simp only [Answer.Succeeded, Answer.Describes]
    constructor
    · exact fun h => ⟨status, body, rfl, h⟩
    · rintro ⟨_, _, h, hmissing⟩
      cases h
      exact hmissing

namespace Client

variable {client : Client} {inquiry : Inquiry} {reply : Reply}

/-- What comes of an inquiry to which the reply is the next one. -/
def verdict (client : Client) (inquiry : Inquiry) (reply : Reply) :
    Except Failure inquiry.Result :=
  match client.sent? inquiry.exchange with
  | none => .error (client.unsent inquiry.exchange)
  | some request => reply.verdict inquiry.decoder request

/-- The verdict is a value exactly if the request was sent and the reply carries the value. -/
theorem verdict_eq_ok_iff {value : inquiry.Result} : client.verdict inquiry reply = .ok value ↔
    (client.sent? inquiry.exchange).isSome ∧ reply.Carries inquiry.decoder value := by
  unfold verdict
  cases client.sent? inquiry.exchange with
  | none => simp
  | some request => simp [Reply.verdict_eq_ok_iff]

/-- It is that something is missing exactly if the request was sent and the reply says so. -/
theorem verdict_isNotFound_iff :
    (∃ failure, client.verdict inquiry reply = .error failure ∧ failure.isNotFound = true) ↔
      (client.sent? inquiry.exchange).isSome ∧ reply.ReportsMissing := by
  unfold verdict
  cases client.sent? inquiry.exchange with
  | none =>
    have hunsent : (client.unsent inquiry.exchange).isNotFound = false := by
      unfold unsent
      split <;> rfl
    simp [hunsent]
  | some request => simp [Reply.verdict_isNotFound_iff]

/-- An inquiry comes to its verdict, with the one request that can be put together for it. -/
theorem comesTo_inquiry (client : Client) (inquiry : Inquiry) {replies : List Reply}
    (hu : .unreachable ∉ replies) : ∃ left,
    ((client.perform inquiry.exchange).run (.scripted replies)).ComesTo
      (client.verdict inquiry (replies.headD Server.exhausted))
      (client.sent? inquiry.exchange).toList left := by
  unfold verdict
  cases hs : client.sent? inquiry.exchange with
  | none => exact ⟨_, comesTo_perform_unsent hs _⟩
  | some request =>
    exact ⟨_, comesTo_perform inquiry.read_exchange hs (Server.headD_ne_unreachable hu)⟩

end Client

namespace Project

variable {project : Project} {id : Identifier}

/-! ## Two calls about a page -/

/-- What is found if a page is asked for with the outcome. -/
def lookupOutcome : Except Failure Page → Except Failure PageLookup
  | .ok page => .ok (.found page)
  | .error failure => if failure.isNotFound then .ok .missing else .error failure

/-- What is logged about a page if it is asked for with the outcome. -/
def absence (id : Identifier) : Except Failure Page → List LogLine
  | .ok _ => []
  | .error failure =>
    if failure.isNotFound then [⟨.debug, "Page " ++ id.text ++ " does not exist"⟩]
    else [⟨.warn, "Page " ++ id.text ++ " treated as missing: " ++ failure.message⟩]

/-- The look-up is the exchange, with another outcome. -/
theorem run_lookupPage (project : Project) (id : Identifier) (server : Server) :
    (project.lookupPage id).run server =
      let asked := (project.client.perform (Endpoint.page id)).run server
      ⟨lookupOutcome asked.outcome, asked.events, asked.server⟩ := by
  rw [lookupPage, Call.run_bind_of_ok rfl, Call.run_attempt]
  generalize (project.client.perform (Endpoint.page id)).run server = asked
  dsimp only
  cases asked.outcome with
  | ok page => simp [lookupOutcome]
  | error failure => cases hf : failure.isNotFound <;> simp [lookupOutcome, hf]

/-- The check is the exchange, with a yes for a page, and a line in the log for a failure. -/
theorem run_pageExists (project : Project) (id : Identifier) (server : Server) :
    (project.pageExists id).run server =
      let asked := (project.client.perform (Endpoint.page id)).run server
      ⟨.ok asked.outcome.isOk, asked.events ++ (absence id asked.outcome).map .logged,
        asked.server⟩ := by
  rw [pageExists, Call.run_bind_of_ok rfl, Call.run_attempt]
  generalize (project.client.perform (Endpoint.page id)).run server = asked
  dsimp only
  cases asked.outcome with
  | ok page => simp [absence, Except.isOk, Except.toBool]
  | error failure =>
    cases hf : failure.isNotFound <;> simp only [absence, hf] <;> rfl

/-- The only warning is about a failure that is no report of a missing page. -/
theorem warnings_pageExists (project : Project) (id : Identifier) (server : Server) :
    ((project.pageExists id).run server).warnings =
      match lookupOutcome ((project.client.perform (Endpoint.page id)).run server).outcome with
      | .ok _ => []
      | .error failure => ["Page " ++ id.text ++ " treated as missing: " ++ failure.message] := by
  have hasked : ((project.client.perform (Endpoint.page id)).run server).warnings = [] :=
    project.client.neverWarns_perform (Inquiry.page id).read_exchange server
  rw [run_pageExists, Run.warnings, List.filterMap_append, ← Run.warnings, hasked]
  cases ((project.client.perform (Endpoint.page id)).run server).outcome with
  | ok page => rfl
  | error failure =>
    cases hf : failure.isNotFound <;> simp [absence, lookupOutcome, hf, Event.warning?]

theorem lookupOutcome_eq_found_iff {outcome : Except Failure Page} {page : Page} :
    lookupOutcome outcome = .ok (.found page) ↔ outcome = .ok page := by
  cases outcome with
  | ok other => simp [lookupOutcome]
  | error failure => cases hf : failure.isNotFound <;> simp [lookupOutcome, hf]

/-- A page is missing if the failure says so; any other failure is handed on. -/
theorem lookupOutcome_eq_missing_iff {outcome : Except Failure Page} :
    lookupOutcome outcome = .ok .missing ↔
      ∃ failure, outcome = .error failure ∧ failure.isNotFound = true := by
  cases outcome with
  | ok page => simp [lookupOutcome]
  | error failure => cases hf : failure.isNotFound <;> simp [lookupOutcome, hf]

theorem lookupOutcome_eq_error_iff {outcome : Except Failure Page} {failure : Failure} :
    lookupOutcome outcome = .error failure ↔
      outcome = .error failure ∧ failure.isNotFound = false := by
  constructor
  · intro h
    cases outcome with
    | ok page => cases h
    | error other =>
      by_cases hf : other.isNotFound = true
      · rw [lookupOutcome, if_pos hf] at h
        cases h
      · rw [lookupOutcome, if_neg hf] at h
        obtain rfl := Except.error.inj h
        exact ⟨rfl, Bool.eq_false_iff.2 hf⟩
  · rintro ⟨rfl, hf⟩
    simp [lookupOutcome, hf]

/-- Looking a page up asks what asking for the page does. -/
theorem requests_lookupPage (project : Project) (id : Identifier) (server : Server) :
    ((project.lookupPage id).run server).requests =
      ((project.client.perform (Endpoint.page id)).run server).requests := by
  rw [run_lookupPage]
  rfl

theorem requests_pageExists (project : Project) (id : Identifier) (server : Server) :
    ((project.pageExists id).run server).requests =
      ((project.client.perform (Endpoint.page id)).run server).requests := by
  rw [run_pageExists, Run.requests, List.filterMap_append, List.filterMap_map]
  simp [Function.comp_def, Event.request?, Run.requests]

/-- To ask for a page takes one request, if it can be put together. What comes of it is the page
that the reply carries, a report that there is none, or another failure. -/
theorem exists_comesTo_page (project : Project) (id : Identifier) {replies : List Reply}
    (hu : .unreachable ∉ replies) : ∃ outcome left,
      ((project.client.perform (Endpoint.page id)).run (.scripted replies)).ComesTo outcome
        (project.client.sent? (Endpoint.page id)).toList left ∧
      (∀ page, outcome = .ok page ↔ (project.client.sent? (Endpoint.page id)).isSome ∧
        (replies.headD Server.exhausted).Carries Page.decode page) ∧
      ((∃ failure, outcome = .error failure ∧ failure.isNotFound = true) ↔
        (project.client.sent? (Endpoint.page id)).isSome ∧
          (replies.headD Server.exhausted).ReportsMissing) ∧
      ∀ failure, outcome = .error failure ↔
        project.client.verdict (.page id) (replies.headD Server.exhausted) = .error failure := by
  obtain ⟨left, hasked⟩ := project.client.comesTo_inquiry (.page id) hu
  exact ⟨_, left, hasked, fun page => Client.verdict_eq_ok_iff, Client.verdict_isNotFound_iff,
    fun failure => Iff.rfl⟩

/-- The two calls about a page agree on the reply that is the next one for each. Both ask for the
page, if the request can be put together, and for nothing else. -/
structure AgreeOn (base : Url) (client : Client) (id : Identifier) (reply : Reply)
    (lookup : Run PageLookup) (check : Run Bool) : Prop where
  lookup_asks : AsksOnly base client (.page id) lookup
  check_asks : AsksOnly base client (.page id) check
  length_eq : Client.Fits base 42 → lookup.requests.length = 1 ∧ check.requests.length = 1
  found_iff : ∀ page, lookup.outcome = .ok (.found page) ↔
    (client.sent? (Endpoint.page id)).isSome ∧ reply.Carries Page.decode page
  missing_iff : lookup.outcome = .ok .missing ↔
    (client.sent? (Endpoint.page id)).isSome ∧ reply.ReportsMissing
  error_iff : ∀ failure, lookup.outcome = .error failure ↔
    client.verdict (.page id) reply = .error failure ∧ failure.isNotFound = false
  check_ok : ∃ found, check.outcome = .ok found
  check_iff : check.outcome = .ok true ↔ ∃ page, lookup.outcome = .ok (.found page)
  warnings_of_ok : ∀ found, lookup.outcome = .ok found → check.warnings = []
  warnings_of_error : ∀ failure, lookup.outcome = .error failure →
    check.warnings = ["Page " ++ id.text ++ " treated as missing: " ++ failure.message]

section Configured

variable {config configured : Config} {text : String} {replies : List Reply}
  (hconfig : config.withBaseUrl text = .ok configured)
  (hproject : ofConfig configured = .ok project)

include hconfig hproject

/-- A page can be asked for below every base that leaves room for its endpoint. -/
theorem isSome_sent?_page (id : Identifier) (hfits : Client.Fits configured.baseUrl 42) :
    (project.client.sent? (Endpoint.page id)).isSome := by
  have hlength : (Inquiry.page id).endpoint.toList.length = 42 := by
    simp [Inquiry.endpoint, String.toList_append, id.length_hyphenated]
  exact @Client.isSome_sent?_of_fits _ _ (base_of_ofConfig hproject)
    (Config.isNormal_baseUrl hconfig) (.page id) rfl (hlength ▸ hfits)

/-- Whatever the next reply is, to look a page up and to check that it exists take the same request
and come to the same: the check says yes exactly if the page is found, and it warns exactly if the
look-up fails. The page is found exactly if the reply carries it, and missing exactly if the reply
reports that. -/
theorem lookupPage_and_pageExists (id : Identifier) (hu : .unreachable ∉ replies) :
    AgreeOn configured.baseUrl project.client id (replies.headD Server.exhausted)
      ((project.lookupPage id).run (.scripted replies))
      ((project.pageExists id).run (.scripted replies)) := by
  obtain ⟨outcome, left, hasked, hok, hmissing, herror⟩ := exists_comesTo_page project id hu
  have hlookup : ((project.lookupPage id).run (.scripted replies)).outcome =
      lookupOutcome outcome := by
    rw [run_lookupPage, ← hasked.outcome_eq]
  have hcheck : ((project.pageExists id).run (.scripted replies)).outcome =
      .ok outcome.isOk := by
    rw [run_pageExists, ← hasked.outcome_eq]
  have hwarnings := project.warnings_pageExists id (.scripted replies)
  rw [hasked.outcome_eq, ← hlookup] at hwarnings
  have hrequests := (project.requests_lookupPage id _).trans hasked.requests_eq
  have hrequests' := (project.requests_pageExists id _).trans hasked.requests_eq
  refine
    { lookup_asks := asksOnly_of_requests_eq hconfig hproject (.page id) hrequests
      check_asks := asksOnly_of_requests_eq hconfig hproject (.page id) hrequests'
      length_eq := fun hfits => ?_
      found_iff := fun page => by rw [hlookup, lookupOutcome_eq_found_iff, hok]
      missing_iff := by rw [hlookup, lookupOutcome_eq_missing_iff, hmissing]
      error_iff := fun failure => by rw [hlookup, lookupOutcome_eq_error_iff, herror]
      check_ok := ⟨_, hcheck⟩
      check_iff := ?_
      warnings_of_ok := fun found h => by rw [hwarnings, h]
      warnings_of_error := fun failure h => by rw [hwarnings, h] }
  · obtain ⟨request, hsent⟩ := Option.isSome_iff_exists.1
      (isSome_sent?_page hconfig hproject id hfits)
    rw [hrequests, hrequests', hsent]
    exact ⟨rfl, rfl⟩
  · simp only [hlookup, hcheck, lookupOutcome_eq_found_iff]
    cases outcome with
    | ok page => exact iff_of_true rfl ⟨page, rfl⟩
    | error failure => simp [Except.isOk, Except.toBool]

end Configured

/-- A page that may not be read. The status is that of a missing page, and the code is not. -/
def sampleRefusal : Reply :=
  .answer 404 ("\x7b\"object\":\"error\",\"status\":404,\"code\":\"restricted_resource\"," ++
    "\"message\":\"no\"\x7d")

/-- The look-up fails, and the check says no with a warning. -/
theorem lookupPage_and_pageExists_sample : ∃ configured project,
    Client.sampleConfig.withBaseUrl "https://api.notion.com/v1" = .ok configured ∧
      ofConfig configured = .ok project ∧ .unreachable ∉ [sampleRefusal] ∧
      let lookup := (project.lookupPage (.ofRandom 1)).run (.scripted [sampleRefusal])
      let check := (project.pageExists (.ofRandom 1)).run (.scripted [sampleRefusal])
      lookup.requests.length = 1 ∧ check.requests.length = 1 ∧
        lookup.outcome = .error (.api ⟨404, .restrictedResource, "no", none⟩) ∧
        check.outcome = .ok false ∧ check.warnings =
          ["Page 10000000000040008000000000000000 treated as missing: " ++
            "Notion API returned an error (restricted_resource, HTTP 404): no"] := by
  have hparse : Url.parse "https://api.notion.com/v1" = .ok Config.publicBase := by decide +kernel
  obtain ⟨configured, hconfig, hproject, hurl⟩ := exists_configured_of_parse hparse
    (by decide +kernel : Config.publicBase.base = "https://api.notion.com/v1")
  have hu : .unreachable ∉ [sampleRefusal] := by decide
  have hagree := lookupPage_and_pageExists hconfig hproject (.ofRandom 1) hu
  have hverdict : ((Client.sample "https://api.notion.com/v1").verdict (.page (.ofRandom 1))
      sampleRefusal).map (fun _ => ()) =
        .error (.api ⟨404, .restrictedResource, "no", none⟩) := by decide +kernel
  have hlookup : ((lookupPage ⟨.ofRandom 0, .sample "https://api.notion.com/v1"⟩
      (.ofRandom 1)).run (.scripted [sampleRefusal])).outcome =
        .error (.api ⟨404, .restrictedResource, "no", none⟩) := by
    refine (hagree.error_iff _).2 ⟨?_, rfl⟩
    cases hv : (Client.sample "https://api.notion.com/v1").verdict (.page (.ofRandom 1))
        sampleRefusal with
    | ok page =>
      rw [hv] at hverdict
      cases hverdict
    | error failure =>
      rw [hv] at hverdict
      exact hv.trans (congrArg Except.error (Except.error.inj hverdict))
  obtain ⟨hlookups, hchecks⟩ := hagree.length_eq (hurl ▸ fits_publicBase)
  obtain ⟨found, hfound⟩ := hagree.check_ok
  refine ⟨configured, _, hconfig, hproject, hu, hlookups, hchecks, hlookup, ?_,
    (hagree.warnings_of_error _ hlookup).trans (by decide +kernel)⟩
  cases found with
  | false => exact hfound
  | true =>
    obtain ⟨page, hpage⟩ := hagree.check_iff.1 hfound
    cases hlookup.symm.trans hpage

/-- At a host that no request can hold nothing is asked. -/
theorem lookupPage_and_pageExists_unsendable : ∃ configured,
    Client.sampleConfig.withBaseUrl "http://a\x7db/v1" = .ok configured ∧
      ofConfig configured = .ok unsendable ∧
      ((unsendable.lookupPage (.ofRandom 1)).run (.scripted sampleCreation)).requests = [] ∧
      ((unsendable.pageExists (.ofRandom 1)).run (.scripted sampleCreation)).requests = [] := by
  obtain ⟨configured, hconfig, hproject⟩ := exists_configured_unsendable
  exact ⟨configured, hconfig, hproject, List.length_eq_zero_iff.1 (by decide +kernel),
    List.length_eq_zero_iff.1 (by decide +kernel)⟩

end Project

end NotionProject
