import NotionProject.Proofs.Creating
import NotionProject.Proofs.FailFast

/-!
# The log of a run

What a run does can be read off its log. Of the events of a run the requests are notable, and the
lines that announce a request, tell of a part of a list, or have the level of an error or of an
information. `Client.trace` says which notable events a list of turns leaves: each turn is
announced, then its request is sent, then an answer that cannot be read is complained about
(`Turn.told`); in a walk there is also a line for each part, with its number.

`Run.Tells` says that the notable events of a run are those of its turns, after which there may be
the announcement of an exchange that has no request to send. An exchange asks once (`asks_perform`),
the calls that follow are put behind it (`Tells.append`, `Tells.bind`), and a walk tells its parts
by induction on the replies (`Walk.tells_follow`). What the log of every operation has
(`Run.IsTrace`) is then read off the trace, line by line (`Run.Tells.isTrace`).
-/

namespace NotionProject

variable {α β γ : Type}

/-! ## Lines -/

namespace LogLine

/-- The line starts with a text. -/
def startsWith (line : LogLine) (start : String) : Bool :=
  start.toList.isPrefixOf line.text.toList

/-- The method of the request that a line announces. -/
def announced? (line : LogLine) : Option Method :=
  if line.level = .debug then
    [Method.get, .post, .patch].find? fun method => line.startsWith (method.name ++ " ")
  else none

/-- The line tells of a part of a list. -/
def isPart (line : LogLine) : Bool :=
  line.level = .debug && line.startsWith "Fetched page "

/-- The line announces a request, tells of a part, or has the level of an error or of an
information. -/
def isNotable (line : LogLine) : Bool :=
  line.announced?.isSome || line.isPart || line.level = .error || line.level = .info

/-- The line names an identifier. -/
def Names (line : LogLine) (id : Identifier) : Prop :=
  id.text.toList <:+: line.text.toList

theorem names_of_eq {line : LogLine} {id : Identifier} {before middle after : String}
    (h : line.text = before ++ id.text ++ middle ++ after) : line.Names id :=
  ⟨before.toList, middle.toList ++ after.toList, by simp [h, String.toList_append]⟩

theorem isNotable_warn (text : String) : (mk .warn text).isNotable = false := by
  simp [isNotable, announced?, isPart]

/-- Notable lines for debugging have one of four beginnings. -/
theorem isNotable_debug {text : String}
    (h : text.toList.take 2 ∉ [['G', 'E'], ['P', 'O'], ['P', 'A'], ['F', 'e']]) :
    (mk .debug text).isNotable = false := by
  simp only [isNotable, announced?, isPart, startsWith, Method.name]
  generalize text.toList = letters at h
  rcases letters with _ | ⟨a, _ | ⟨b, rest⟩⟩
  · rfl
  · simp [List.isPrefixOf]
  · simp only [List.take_succ_cons, List.take_zero, List.mem_cons, List.cons.injEq,
      List.not_mem_nil, or_false, and_true, not_or] at h
    simp [List.isPrefixOf]
    grind

end LogLine

/-- Every request is notable, and so is a notable line. -/
def Event.isNotable : Event → Bool
  | sent _ => true
  | logged line => line.isNotable

/-- What is told of a part of a list: how many items it has, and whether there is more. -/
structure Part where
  size : Nat
  hasMore : Bool

/-- The line about a part with its number. -/
def Part.line (part : Part) (number : Nat) : LogLine where
  level := .debug
  text := "Fetched page " ++ toString number ++ " with " ++ toString part.size ++
    " items (has_more: " ++ toString part.hasMore ++ ")"

/-- What is told of a listing. -/
def Listing.part (listing : Listing α) : Part :=
  ⟨listing.results.length, listing.hasMore⟩

theorem Part.isPart_line (part : Part) (number : Nat) : (part.line number).isPart = true := by
  simp [LogLine.isPart, line, LogLine.startsWith, String.toList_append, List.isPrefixOf]

theorem Part.announced?_line (part : Part) (number : Nat) :
    (part.line number).announced? = none := by
  simp [LogLine.announced?, line, LogLine.startsWith, Method.name, String.toList_append,
    List.isPrefixOf]

/-- The line about an answer with a status of success whose text cannot be read. -/
def Answer.complaint? (decode : Decoder α) (answer : Answer) : Option LogLine :=
  if answer.isSuccess then
    match Decoder.ofText decode answer.body with
    | .ok _ => none
    | .error error => some
      ⟨.error, "Failed to parse response from " ++ answer.url ++ ": " ++ error.message⟩
  else none

theorem Answer.level_of_complaint {decode : Decoder α} {answer : Answer} {line : LogLine}
    (h : answer.complaint? decode = some line) : line.level = .error := by
  unfold complaint? at h
  split at h
  · split at h
    · cases h
    · obtain rfl := Option.some.inj h
      rfl
  · cases h

/-! ## Turns -/

/-- The line with which an exchange is announced. -/
def Client.announcement (client : Client) (exchange : Exchange α) : LogLine :=
  ⟨.debug, client.logText exchange⟩

theorem Client.exists_announcement_eq (client : Client) (exchange : Exchange α) :
    ∃ rest, client.announcement exchange = ⟨.debug, exchange.method.name ++ " " ++ rest⟩ := by
  unfold announcement logText
  split
  · exact ⟨client.address exchange.endpoint ++
      (" [" ++ ", ".intercalate (exchange.query.map logPair) ++ "]"),
      by simp only [String.append_assoc]⟩
  · exact ⟨_, rfl⟩

theorem Client.announced?_announcement (client : Client) (exchange : Exchange α) :
    (client.announcement exchange).announced? = some exchange.method := by
  obtain ⟨rest, hrest⟩ := client.exists_announcement_eq exchange
  rw [hrest]
  cases exchange.method <;>
    simp [LogLine.announced?, LogLine.startsWith, Method.name, String.toList_append,
      List.isPrefixOf]

theorem Client.isPart_announcement (client : Client) (exchange : Exchange α) :
    (client.announcement exchange).isPart = false := by
  obtain ⟨rest, hrest⟩ := client.exists_announcement_eq exchange
  rw [hrest]
  cases exchange.method <;>
    simp [LogLine.isPart, LogLine.startsWith, Method.name, String.toList_append, List.isPrefixOf]

/-- The part of a list that an answer to the inquiry is. -/
def Inquiry.part? : (inquiry : Inquiry) → inquiry.Result → Option Part
  | .children _ _, listing => some (Listing.part (α := Block) listing)
  | .query _ _, listing => some (Listing.part (α := Page) listing)
  | .page _, _ => none
  | .database _, _ => none
  | .createPage _, _ => none
  | .createDatabase _, _ => none
  | .updatePage _ _, _ => none

namespace Turn

/-- The answer that the reply is. -/
def answer? (turn : Turn) : Option Answer :=
  match turn.reply.arrived with
  | .answer status body => some ⟨status, turn.request.target, body⟩
  | .dropped => none
  | .unreachable => none

/-- The line about the answer, if it has a status of success and cannot be read. -/
def complaint? (turn : Turn) : Option LogLine :=
  turn.answer?.bind (Answer.complaint? turn.inquiry.decoder)

theorem level_of_complaint (turn : Turn) {line : LogLine} (h : turn.complaint? = some line) :
    line.level = .error := by
  obtain ⟨answer, -, hline⟩ := Option.bind_eq_some_iff.1 h
  exact Answer.level_of_complaint hline

/-- The part of a list that the turn gives. -/
def part? (turn : Turn) : Option Part :=
  turn.verdict.toOption.bind turn.inquiry.part?

/-- The part, if parts are counted. -/
def counted? (walking : Bool) (turn : Turn) : Option Part :=
  if walking then turn.part? else none

/-- The lines that are told of a turn, whether parts are counted or not. -/
def lines (client : Client) (turn : Turn) : List LogLine :=
  client.announcement turn.inquiry.exchange :: turn.complaint?.toList

theorem filter_announced_lines (client : Client) (turn : Turn) :
    (turn.lines client).filter (·.announced?.isSome) =
      [client.announcement turn.inquiry.exchange] := by
  rw [lines, List.filter_cons_of_pos (by simp [Client.announced?_announcement])]
  refine congrArg _ (List.filter_eq_nil_iff.2 fun line hm => ?_)
  have hlevel := turn.level_of_complaint (Option.mem_toList.1 hm)
  simp [LogLine.announced?, hlevel]

theorem filter_error_lines (client : Client) (turn : Turn) :
    (turn.lines client).filter (·.level = .error) = turn.complaint?.toList := by
  rw [lines, List.filter_cons_of_neg (by simp [Client.announcement])]
  refine List.filter_eq_self.2 fun line hm => ?_
  simp [turn.level_of_complaint (Option.mem_toList.1 hm)]

theorem filter_info_lines (client : Client) (turn : Turn) :
    (turn.lines client).filter (·.level = .info) = [] := by
  rw [lines, List.filter_cons_of_neg (by simp [Client.announcement])]
  refine List.filter_eq_nil_iff.2 fun line hm => ?_
  simp [turn.level_of_complaint (Option.mem_toList.1 hm)]

/-- What is told of a turn: it is announced, its request is sent, and an answer that cannot be read
is complained about. -/
def told (client : Client) (turn : Turn) : List Event :=
  .logged (client.announcement turn.inquiry.exchange) :: .sent turn.request ::
    turn.complaint?.toList.map .logged

end Turn

namespace Client

variable {client : Client} {walking : Bool}

/-- What is told of turns, of which a walk counts the parts from a number on. -/
def trace (client : Client) (walking : Bool) : Nat → List Turn → List Event
  | _, [] => []
  | number, turn :: turns =>
    match turn.counted? walking with
    | none => turn.told client ++ trace client walking number turns
    | some part =>
      turn.told client ++ .logged (part.line number) :: trace client walking (number + 1) turns

theorem trace_append : ∀ (number : Nat) (first second : List Turn),
    client.trace walking number (first ++ second) = client.trace walking number first ++
      client.trace walking (number + (first.filterMap (Turn.counted? walking)).length) second
  | _, [], _ => rfl
  | number, turn :: first, second => by
    cases hp : turn.counted? walking with
    | none => simp [trace, hp, trace_append number first second]
    | some part =>
      have ih := trace_append (number + 1) first second
      rw [Nat.add_right_comm, Nat.add_assoc] at ih
      simp [trace, hp, ih]

/-- Where no part is counted, the numbers make no difference. -/
theorem trace_of_uncounted (number : Nat) {turns : List Turn}
    (h : ∀ turn ∈ turns, turn.counted? walking = none) :
    client.trace walking number turns = turns.flatMap (Turn.told client) := by
  induction turns with
  | nil => rfl
  | cons turn turns ih =>
    rw [trace, h turn List.mem_cons_self, ih fun turn ht => h turn (List.mem_cons_of_mem _ ht)]
    rfl

/-! ### What the lines of a trace are -/

/-- The requests of a trace are those of the turns. -/
theorem requests_trace : ∀ (number : Nat) (turns : List Turn),
    (client.trace walking number turns).filterMap Event.request? = turns.map Turn.request
  | _, [] => rfl
  | number, turn :: turns => by
    have hcomplaint : (turn.complaint?.toList.map Event.logged).filterMap Event.request? = [] := by
      cases turn.complaint? <;> rfl
    cases hp : turn.counted? walking <;>
      simp [trace, hp, Turn.told, Event.request?, List.filterMap_cons, hcomplaint, requests_trace]

/-- The lines of a turn are those that its events log. -/
theorem lines_told (turn : Turn) :
    (turn.told client).filterMap Event.line? = turn.lines client := by
  cases hc : turn.complaint? <;>
    simp [Turn.told, Turn.lines, hc, Event.line?, List.filterMap_cons]

/-- Of the lines of a trace, those that are not about parts belong to one turn each. -/
theorem filter_trace {p : LogLine → Bool}
    (hpart : ∀ (part : Part) (number : Nat), p (part.line number) = false) :
    ∀ (number : Nat) (turns : List Turn),
      ((client.trace walking number turns).filterMap Event.line?).filter p =
        turns.flatMap fun turn => (turn.lines client).filter p
  | _, [] => rfl
  | number, turn :: turns => by
    cases hp : turn.counted? walking with
    | none => simp [trace, hp, lines_told, filter_trace hpart number turns]
    | some part =>
      simp [trace, hp, lines_told, Event.line?, hpart, filter_trace hpart (number + 1) turns]

/-- The lines of a trace about parts are numbered without a gap. -/
theorem filter_isPart_trace : ∀ (number : Nat) (turns : List Turn),
    ((client.trace walking number turns).filterMap Event.line?).filter LogLine.isPart =
      ((turns.filterMap (Turn.counted? walking)).zipIdx number).map fun numbered =>
        numbered.1.line numbered.2
  | _, [] => rfl
  | number, turn :: turns => by
    have htold : ((turn.told client).filterMap Event.line?).filter LogLine.isPart = [] := by
      rw [lines_told, List.filter_eq_nil_iff]
      intro line hm
      rcases List.mem_cons.1 hm with rfl | hm
      · simp [isPart_announcement]
      · have hlevel := turn.level_of_complaint (Option.mem_toList.1 hm)
        simp [LogLine.isPart, hlevel]
    cases hp : turn.counted? walking with
    | none => simp [trace, hp, htold, filter_isPart_trace number turns]
    | some part =>
      have ih := filter_isPart_trace (number + 1) turns
      simp [trace, hp, htold, Event.line?, Part.isPart_line, ih]

end Client

/-! ## Runs -/

/-- Nothing notable happens in the run, and the server is left alone. -/
structure Run.IsSilent (server : Server) (run : Run α) : Prop where
  events_eq : run.events.filter Event.isNotable = []
  server_eq : run.server = server

/-- Nothing notable happens in the call. -/
def Call.IsSilent (call : Call α) : Prop :=
  ∀ server, (call.run server).IsSilent server

/-- The notable events of the run against the replies are those of the turns; then an exchange may
be announced that has no request to send, and lines of information may follow. -/
structure Run.Tells (client : Client) (walking : Bool) (number : Nat) (replies : List Reply)
    (turns : List Turn) (unsent : Option Inquiry) (news : List LogLine) (run : Run α) : Prop where
  course : Course client replies turns
  unsent_eq : ∀ inquiry ∈ unsent, client.sent? inquiry.exchange = none
  server_eq : run.server = .scripted (replies.drop turns.length)
  events_eq : run.events.filter Event.isNotable = client.trace walking number turns ++
    ((unsent.map fun inquiry => client.announcement inquiry.exchange).toList ++ news).map .logged

namespace Call.IsSilent

variable {call : Call α} {next : α → Call β}

theorem pure (value : α) : (Pure.pure value : Call α).IsSilent :=
  fun _ => ⟨rfl, rfl⟩

theorem fail (failure : Failure) : (Call.fail failure : Call α).IsSilent :=
  fun _ => ⟨rfl, rfl⟩

theorem ofExcept (known : Except Failure α) : (Call.ofExcept known).IsSilent := by
  cases known with
  | ok value => exact pure value
  | error failure => exact fail failure

theorem log {level : Level} {text : String} (h : (LogLine.mk level text).isNotable = false) :
    (Call.log level text).IsSilent :=
  fun _ => ⟨by simp [Event.isNotable, h], rfl⟩

theorem warn (text : String) : (Call.log .warn text).IsSilent :=
  log (LogLine.isNotable_warn text)

theorem logAll {level : Level} {texts : List String}
    (h : ∀ text ∈ texts, (LogLine.mk level text).isNotable = false) :
    (Call.logAll level texts).IsSilent :=
  fun _ => ⟨by simpa [Call.logAll, Event.isNotable] using h, rfl⟩

/-- Silent calls in a row are silent. -/
theorem bind (hc : call.IsSilent) (hn : ∀ value, (next value).IsSilent) :
    (call >>= next).IsSilent := by
  intro server
  have hfirst := hc server
  cases ho : (call.run server).outcome with
  | error failure =>
    rw [run_bind_of_error ho]
    exact ⟨hfirst.events_eq, hfirst.server_eq⟩
  | ok value =>
    have hsecond := hn value (call.run server).server
    rw [run_bind_of_ok ho]
    exact ⟨by simp [hfirst.events_eq, hsecond.events_eq],
      hsecond.server_eq.trans hfirst.server_eq⟩

end Call.IsSilent

namespace Run.Tells

variable {client : Client} {walking : Bool} {number : Nat} {replies : List Reply}
  {turns others : List Turn} {unsent : Option Inquiry} {news : List LogLine} {run : Run α}
  {second : Run β}

/-- Only the events and the server of a run matter. -/
theorem of_events (h : run.Tells client walking number replies turns unsent news)
    (outcome : Except Failure β) :
    Run.Tells client walking number replies turns unsent news
      ⟨outcome, run.events, run.server⟩ :=
  ⟨h.course, h.unsent_eq, h.server_eq, h.events_eq⟩

/-- A run comes behind another one, after all of whose turns it counts on. -/
theorem append (hf : run.Tells client walking number replies turns none [])
    (hs : second.Tells client walking
      (number + (turns.filterMap (Turn.counted? walking)).length) (replies.drop turns.length)
      others unsent news) (outcome : Except Failure γ) :
    Run.Tells client walking number replies (turns ++ others) unsent news
      ⟨outcome, run.events ++ second.events, second.server⟩ where
  course := hf.course.append hs.course
  unsent_eq := hs.unsent_eq
  server_eq := by rw [List.length_append, ← List.drop_drop]; exact hs.server_eq
  events_eq := by simp [hf.events_eq, hs.events_eq, Client.trace_append]

/-- A run in which nothing notable happens adds nothing. -/
theorem append_silent (hf : run.Tells client walking number replies turns unsent news)
    (hs : second.IsSilent run.server) (outcome : Except Failure γ) :
    Run.Tells client walking number replies turns unsent news
      ⟨outcome, run.events ++ second.events, second.server⟩ where
  course := hf.course
  unsent_eq := hf.unsent_eq
  server_eq := hs.server_eq.trans hf.server_eq
  events_eq := by simp [hf.events_eq, hs.events_eq]

/-- Nor does it before. -/
theorem silent_append (hs : second.IsSilent (.scripted replies))
    (hr : run.Tells client walking number replies turns unsent news)
    (outcome : Except Failure γ) :
    Run.Tells client walking number replies turns unsent news
      ⟨outcome, second.events ++ run.events, run.server⟩ where
  course := hr.course
  unsent_eq := hr.unsent_eq
  server_eq := hr.server_eq
  events_eq := by simp [hr.events_eq, hs.events_eq]

/-- A line of information is the news of a run. -/
theorem append_news (hf : run.Tells client walking number replies turns none [])
    {line : LogLine} (hline : line.level = .info) (outcome : Except Failure γ) :
    Run.Tells client walking number replies turns none [line]
      ⟨outcome, run.events ++ [.logged line], run.server⟩ where
  course := hf.course
  unsent_eq := hf.unsent_eq
  server_eq := hf.server_eq
  events_eq := by simp [hf.events_eq, Event.isNotable, LogLine.isNotable, hline]

/-- The line about the part that a turn gives is told of the turn in a walk. -/
theorem append_part {turn : Turn} {part : Part}
    (hf : run.Tells client false number replies [turn] none [])
    (hp : turn.counted? true = some part) (other : Nat) (outcome : Except Failure γ) :
    Run.Tells client true other replies [turn] none []
      ⟨outcome, run.events ++ [.logged (part.line other)], run.server⟩ where
  course := hf.course
  unsent_eq := hf.unsent_eq
  server_eq := hf.server_eq
  events_eq := by
    have hfirst := hf.events_eq
    simp only [Client.trace, Turn.counted?, Bool.false_eq_true, if_false] at hfirst
    simp [Client.trace, hp, hfirst, Event.isNotable, LogLine.isNotable, Part.isPart_line]

/-- Where a walk has no part to count, it makes no difference that there is one. -/
theorem of_uncounted (h : run.Tells client false number replies turns unsent news)
    (hnone : ∀ turn ∈ turns, turn.counted? walking = none) (other : Nat) :
    run.Tells client walking other replies turns unsent news where
  course := h.course
  unsent_eq := h.unsent_eq
  server_eq := h.server_eq
  events_eq := by
    rw [h.events_eq, Client.trace_of_uncounted other hnone,
      Client.trace_of_uncounted number fun _ _ => rfl]

end Run.Tells

/-! ## One exchange -/

/-- Of the events of reading an answer the complaint is notable, if there is one. -/
theorem Answer.events_read (decode : Decoder α) (answer : Answer) (server : Server) :
    ((Answer.read decode answer).run server).events.filter Event.isNotable =
      (answer.complaint? decode).toList.map .logged := by
  unfold Answer.read complaint?
  split
  · unfold readSuccess
    cases Decoder.ofText decode answer.body with
    | ok value => rfl
    | error error =>
      rw [Call.run_bind_of_ok rfl]
      simp [Event.isNotable, LogLine.isNotable]
  · unfold readError
    cases Decoder.ofText ErrorBody.decode answer.body with
    | error error => rfl
    | ok body =>
      rw [Call.run_bind_of_ok rfl]
      have hline : (LogLine.mk .debug ("Notion error from " ++ answer.url ++ ": " ++ body.code ++
          " (" ++ body.message ++ ")")).isNotable = false :=
        LogLine.isNotable_debug (by simp [String.toList_append])
      simp [Event.isNotable, hline]

namespace Client

variable {client : Client} {replies : List Reply}

theorem isNotable_announcement (client : Client) (exchange : Exchange α) :
    (client.announcement exchange).isNotable = true := by
  simp [LogLine.isNotable, announced?_announcement]

/-- Of an exchange that has no request to send there is only the announcement. -/
theorem events_perform_unsent {exchange : Exchange α} (h : client.sent? exchange = none)
    (server : Server) :
    ((client.perform exchange).run server).events = [.logged (client.announcement exchange)] := by
  have hquiet : ∀ {failure : Failure}, ((Call.log .debug (client.logText exchange) >>= fun _ =>
      (Call.fail failure : Call α)).run server).events =
        [.logged (client.announcement exchange)] := rfl
  unfold perform
  unfold sent? at h
  cases hr : client.request? exchange with
  | none => exact hquiet
  | some request =>
    have hs : request.isSendable = false := by simpa [hr] using h
    simp only [hs]
    exact hquiet

/-- A request that cannot be put together is announced, and nothing else happens. -/
theorem announces_unsent {exchange : Exchange α} (h : client.sent? exchange = none)
    (server : Server) :
    let run := (client.perform exchange).run server
    run.requests = [] ∧ run.log.filterMap LogLine.announced? = [exchange.method] := by
  intro run
  have hevents : run.events = _ := events_perform_unsent h server
  rw [Run.requests, Run.log, hevents]
  exact ⟨rfl, by simp [Event.line?, announced?_announcement]⟩

/-- Any other exchange is announced before its request is sent. -/
theorem events_perform {exchange : Exchange α} {request : Request}
    (h : client.sent? exchange = some request) (server : Server) :
    ((client.perform exchange).run server).events = .logged (client.announcement exchange) ::
      ((send request >>= exchange.read).run server).events := by
  obtain ⟨hr, hs⟩ := Option.filter_eq_some_iff.1 h
  unfold perform
  simp only [hr, hs, if_true]
  rw [Call.run_bind_of_ok rfl]
  rfl

/-- So such a request adds no turn, and stands as the one that was not sent. -/
theorem tells_perform_unsent {inquiry : Inquiry} (h : client.sent? inquiry.exchange = none)
    (number : Nat) :
    ((client.perform inquiry.exchange).run (.scripted replies)).Tells client false number replies
      [] (some inquiry) [] where
  course := .nil
  unsent_eq := by simpa using h
  server_eq := (comesTo_perform_unsent h _).server_eq
  events_eq := by
    simp [events_perform_unsent h, trace, Event.isNotable, isNotable_announcement]

theorem events_send {replies : List Reply} (h : replies.headD Server.exhausted ≠ .unreachable)
    (request : Request) : ((send request).run (.scripted replies)).events = [.sent request] := by
  have htake : (Server.scripted replies).take =
      (replies.headD Server.exhausted, .scripted replies.tail) := by
    cases replies <;> rfl
  unfold send
  simp only [htake]
  cases ha : (replies.headD Server.exhausted).arrived with
  | unreachable => exact absurd ha (Reply.arrived_ne_unreachable h)
  | dropped => rfl
  | answer status body => rfl

/-- A request is sent, and its answer is complained about if it cannot be read. -/
theorem events_ask (inquiry : Inquiry) (request : Request)
    (h : replies.headD Server.exhausted ≠ .unreachable) :
    ((send request >>= inquiry.exchange.read).run (.scripted replies)).events.filter
        Event.isNotable =
      .sent request ::
        (Turn.complaint? ⟨inquiry, request, replies.headD Server.exhausted⟩).toList.map
          .logged := by
  have hsend := (comesTo_send request h).outcome_eq
  have hevents := events_send h request
  unfold Turn.complaint? Turn.answer?
  cases ha : (replies.headD Server.exhausted).arrived with
  | unreachable => exact absurd ha (Reply.arrived_ne_unreachable h)
  | dropped =>
    rw [ha] at hsend
    rw [Call.run_bind_of_error hsend, hevents]
    rfl
  | answer status body =>
    rw [ha] at hsend
    rw [Call.run_bind_of_ok hsend]
    simp only [hevents, inquiry.read_exchange, List.filter_append, Answer.events_read]
    rfl

/-- A request that is answered is one turn. -/
theorem tells_perform {inquiry : Inquiry} {request : Request}
    (hsent : client.sent? inquiry.exchange = some request)
    (h : replies.headD Server.exhausted ≠ .unreachable) (number : Nat) :
    ((client.perform inquiry.exchange).run (.scripted replies)).Tells client false number replies
      [⟨inquiry, request, replies.headD Server.exhausted⟩] none [] where
  course := ⟨by simpa using hsent, rfl⟩
  unsent_eq := by simp
  server_eq := by
    rw [(comesTo_perform inquiry.read_exchange hsent h).server_eq, List.length_singleton,
      List.drop_one]
  events_eq := by
    have hask := events_ask inquiry request h
    simp [events_perform hsent, hask, trace, Turn.counted?, Turn.told, Event.isNotable,
      isNotable_announcement]

/-- The log of a call of any endpoint is its announcement, and the request is made if it can be put
together. -/
theorem perform_raw (client : Client) (method : Method) (endpoint : String) (query : Form)
    (body : Json) (hu : .unreachable ∉ replies) :
    let exchange := Endpoint.raw method endpoint query body
    let run := (client.perform exchange).run (.scripted replies)
    exchange.method = method ∧ run.log = [client.announcement exchange] ∧
      run.requests = (client.sent? exchange).toList := by
  intro exchange run
  have hmethod : exchange.method = method := by cases method <;> rfl
  have hread : exchange.read = pure := by cases method <;> rfl
  refine ⟨hmethod, ?_⟩
  cases hs : client.sent? exchange with
  | none =>
    have hevents : run.events = _ := events_perform_unsent hs _
    exact ⟨by rw [Run.log, hevents]; rfl, by rw [Run.requests, hevents]; rfl⟩
  | some request =>
    have hevents : run.events = _ := events_perform hs _
    rw [hread, bind_pure, events_send (Server.headD_ne_unreachable hu)] at hevents
    exact ⟨by rw [Run.log, hevents]; rfl, by rw [Run.requests, hevents]; rfl⟩

end Client

/-! ## Calls -/

/-- The call asks once. Either what it asks cannot be sent, and it fails, or it takes one turn,
which gives a part exactly if the result is one. -/
def Call.Asks (client : Client) (part? : α → Option Part) (call : Call α) : Prop :=
  ∀ replies : List Reply, .unreachable ∉ replies →
    let run := call.run (.scripted replies)
    (∃ inquiry failure, run.outcome = .error failure ∧
        run.Tells client false 1 replies [] (some inquiry) []) ∨
      ∃ turn, turn.part? = run.outcome.toOption.bind part? ∧
        run.Tells client false 1 replies [turn] none []

/-- Performing the exchange of an inquiry asks once. -/
theorem asks_perform (client : Client) (inquiry : Inquiry) :
    (client.perform inquiry.exchange).Asks client inquiry.part? := by
  intro replies hu
  have hhead := Server.headD_ne_unreachable hu
  cases hs : client.sent? inquiry.exchange with
  | none =>
    exact Or.inl ⟨inquiry, _, (Client.comesTo_perform_unsent hs _).outcome_eq,
      Client.tells_perform_unsent hs 1⟩
  | some request =>
    refine Or.inr ⟨_, ?_, Client.tells_perform hs hhead 1⟩
    rw [(Client.comesTo_perform inquiry.read_exchange hs hhead).outcome_eq]
    rfl

/-- Against every list of replies the notable events of the call are those of some turns, and of an
exchange that cannot be sent only if the call fails. -/
def Call.Tells (client : Client) (walking : Bool) (number : Nat) (call : Call α) : Prop :=
  ∀ replies : List Reply, .unreachable ∉ replies → ∃ turns unsent,
    (call.run (.scripted replies)).Tells client walking number replies turns unsent [] ∧
      ∀ value, (call.run (.scripted replies)).outcome = .ok value → unsent = none

/-- Against every list of replies the notable events of the call are those of some turns, perhaps of
an exchange that cannot be sent, and one line for what was created, if the result says that
something was. -/
def Call.IsTraced (client : Client) (walking : Bool) (created? : α → Option Identifier)
    (call : Call α) : Prop :=
  ∀ replies : List Reply, .unreachable ∉ replies → ∃ turns unsent news,
    (call.run (.scripted replies)).Tells client walking 1 replies turns unsent news ∧
      (∀ line ∈ news, line.level = .info) ∧
      List.Forall₂ LogLine.Names news
        ((call.run (.scripted replies)).outcome.toOption.bind created?).toList

namespace Call

variable {client : Client} {walking : Bool} {number : Nat} {call : Call α} {next : α → Call β}
  {part? : α → Option Part} {created? : β → Option Identifier}

/-- After a result the next call goes on from a server that is known. -/
theorem run_bind_at {server middle : Server} {value : α}
    (ho : (call.run server).outcome = .ok value) (hs : (call.run server).server = middle) :
    (call >>= next).run server =
      ⟨((next value).run middle).outcome,
        (call.run server).events ++ ((next value).run middle).events,
        ((next value).run middle).server⟩ := by
  rw [run_bind_of_ok ho, ← hs]

/-- A part makes a difference only in a walk. -/
theorem Asks.tells (h : call.Asks client part?) (number : Nat)
    (hpart : walking = true → ∀ value, part? value = none) : call.Tells client walking number := by
  intro replies hu
  rcases h replies hu with ⟨inquiry, failure, ho, htells⟩ | ⟨turn, hp, htells⟩
  · refine ⟨[], some inquiry, htells.of_uncounted (by simp) number, fun value hv => ?_⟩
    rw [ho] at hv
    cases hv
  · refine ⟨[turn], none, htells.of_uncounted ?_ number, fun _ _ => rfl⟩
    have hnone : turn.counted? walking = none := by
      cases walking with
      | false => rfl
      | true =>
        have hnone : part? = fun _ => none := funext (hpart rfl)
        simp [Turn.counted?, hp, hnone]
    simpa using hnone

/-- A silent call leaves a trace of no turns. -/
theorem IsSilent.tells (h : call.IsSilent) : call.Tells client walking number := by
  intro replies _
  obtain ⟨hevents, hserver⟩ := h (.scripted replies)
  exact ⟨[], none, ⟨.nil, by simp, hserver, by simpa [Client.trace] using hevents⟩, fun _ _ => rfl⟩

/-- A call goes on only after a result, so only the last one can ask what cannot be sent. -/
theorem Tells.bind (hc : call.Tells client walking number)
    (hn : ∀ value number, (next value).Tells client walking number) :
    (call >>= next).Tells client walking number := by
  intro replies hu
  obtain ⟨turns, unsent, hfirst, hnone⟩ := hc replies hu
  cases ho : (call.run (.scripted replies)).outcome with
  | error failure =>
    rw [run_bind_of_error ho]
    exact ⟨turns, unsent, hfirst.of_events _, fun value hv => by cases hv⟩
  | ok value =>
    -- everything that the first call asked was sent, so its turns stand before the others
    obtain rfl := hnone value ho
    obtain ⟨others, unsent, hsecond, hnone'⟩ := hn value _ (replies.drop turns.length)
      fun hm => hu (List.mem_of_mem_drop hm)
    rw [run_bind_at ho hfirst.server_eq]
    exact ⟨turns ++ others, unsent, hfirst.append hsecond _, hnone'⟩

theorem Tells.isTraced (h : call.Tells client walking 1) :
    call.IsTraced client walking fun _ => none := by
  intro replies hu
  obtain ⟨turns, unsent, htells, -⟩ := h replies hu
  refine ⟨turns, unsent, [], htells, by simp, ?_⟩
  rw [Option.bind_fun_none]
  exact .nil

/-- What is made of the outcome of a call, without anything notable, adds nothing to it. -/
theorem Tells.attempt {handler : Except Failure α → Call β} (h : call.Tells client walking number)
    (hs : ∀ outcome, (handler outcome).IsSilent) {replies : List Reply}
    (hu : .unreachable ∉ replies) : ∃ turns unsent,
      ((call.attempt >>= handler).run (.scripted replies)).Tells client walking number replies turns
        unsent [] ∧
      ∀ value, (call.run (.scripted replies)).outcome = .ok value → unsent = none := by
  obtain ⟨turns, unsent, htells, hnone⟩ := h replies hu
  have hknown : (call.attempt.run (.scripted replies)).outcome =
      .ok (call.run (.scripted replies)).outcome := rfl
  rw [run_bind_of_ok hknown]
  exact ⟨turns, unsent, htells.append_silent (hs _ _) _, hnone⟩

/-- What is done with the outcome of a traced call may be anything silent. -/
theorem Tells.handle {handler : Except Failure α → Call β} (h : call.Tells client walking 1)
    (hs : ∀ outcome, (handler outcome).IsSilent) :
    (call.attempt >>= handler).IsTraced client walking fun _ => none := by
  intro replies hu
  obtain ⟨turns, unsent, htells, -⟩ := h.attempt hs hu
  refine ⟨turns, unsent, [], htells, by simp, ?_⟩
  rw [Option.bind_fun_none]
  exact .nil

/-- A line of information names what was created. -/
theorem Tells.inform (h : call.Tells client false 1) (line : α → String) (f : α → β)
    (hnames : ∀ value, ∃ id, created? (f value) = some id ∧
      LogLine.Names ⟨.info, line value⟩ id) :
    (call >>= fun value => Call.log .info (line value) >>= fun _ => pure (f value)).IsTraced client
      false created? := by
  intro replies hu
  obtain ⟨turns, unsent, htells, hnone⟩ := h replies hu
  cases ho : (call.run (.scripted replies)).outcome with
  | error failure =>
    rw [run_bind_of_error ho]
    exact ⟨turns, unsent, [], htells.of_events _, by simp, .nil⟩
  | ok value =>
    obtain rfl := hnone value ho
    obtain ⟨id, hid, hline⟩ := hnames value
    rw [run_bind_of_ok ho]
    refine ⟨turns, none, [⟨.info, line value⟩], htells.append_news rfl _, by simp, ?_⟩
    have hcreated : (Except.ok (ε := Failure) (f value)).toOption.bind created? = some id := hid
    exact hcreated ▸ .cons hline .nil

/-- A silent call before another one changes nothing. -/
theorem IsSilent.bind_isTraced (h : call.IsSilent)
    (hn : ∀ value, (next value).IsTraced client walking created?) :
    (call >>= next).IsTraced client walking created? := by
  intro replies hu
  have hsilent := h (.scripted replies)
  cases ho : (call.run (.scripted replies)).outcome with
  | error failure =>
    rw [run_bind_of_error ho]
    refine ⟨[], none, [], ⟨.nil, by simp, hsilent.server_eq, ?_⟩, by simp, .nil⟩
    simpa [Client.trace] using hsilent.events_eq
  | ok value =>
    obtain ⟨turns, unsent, news, htells, hinfo, hnames⟩ := hn value replies hu
    rw [run_bind_at ho hsilent.server_eq]
    exact ⟨turns, unsent, news, Run.Tells.silent_append hsilent htells _, hinfo, hnames⟩

end Call

/-! ## Walks -/

namespace Walk

variable {client : Client} {ask : Walk.Request α}

/-- A part that is known is told of under its number. -/
theorem run_told (listing : Listing α) (number : Nat) (server : Server) :
    (Call.log .debug (partText number listing) >>= fun _ => pure listing).run server =
      ⟨.ok listing, [.logged (listing.part.line number)], server⟩ :=
  rfl

/-- Asking for a part tells of it under its number. -/
theorem tells_fetch (h : ∀ cursor, (client.perform (ask cursor)).Asks client
    fun listing => some listing.part) (number : Nat) (cursor : Option String)
    {replies : List Reply} (hu : .unreachable ∉ replies) :
    let run := (fetch client ask number cursor).run (.scripted replies)
    (∃ turns unsent failure, run.outcome = .error failure ∧
        run.Tells client true number replies turns unsent []) ∨
      ∃ turn listing, turn.counted? true = some listing.part ∧ run.outcome = .ok listing ∧
        run.Tells client true number replies [turn] none [] := by
  intro run
  cases ho : ((client.perform (ask cursor)).run (.scripted replies)).outcome with
  | error failure =>
    have hrun : run = _ := Call.run_bind_of_error ho
    rw [hrun]
    obtain ⟨turns, unsent, htells⟩ : ∃ turns unsent,
        ((client.perform (ask cursor)).run (.scripted replies)).Tells client true number replies
          turns unsent [] := by
      rcases h cursor replies hu with ⟨inquiry, _, -, htells⟩ | ⟨turn, hp, htells⟩
      · exact ⟨[], some inquiry, htells.of_uncounted (by simp) number⟩
      · have hnone : turn.counted? true = none := by simp [Turn.counted?, hp, ho, Except.toOption]
        exact ⟨[turn], none, htells.of_uncounted (by simpa using hnone) number⟩
    exact Or.inl ⟨turns, unsent, failure, rfl, htells.of_events _⟩
  | ok listing =>
    have hrun : run = _ := Call.run_bind_at ho rfl
    rw [hrun, run_told]
    rcases h cursor replies hu with ⟨_, failure, he, -⟩ | ⟨turn, hp, htells⟩
    · rw [ho] at he
      cases he
    · have hpart : turn.counted? true = some listing.part := by
        simp [Turn.counted?, hp, ho, Except.toOption]
      exact Or.inr ⟨turn, listing, hpart, rfl, htells.append_part hpart number _⟩

/-- A walk tells of its parts one after the other, whatever the replies. -/
theorem tells_follow (h : ∀ cursor, (client.perform (ask cursor)).Asks client
    fun listing => some listing.part) :
    ∀ (replies : List Reply), .unreachable ∉ replies → ∀ (number : Nat) (cursor : Option String),
      ∃ turns unsent,
        (follow client ask replies number cursor).Tells client true number replies turns unsent [] ∧
          ∀ walk, (follow client ask replies number cursor).outcome = .ok walk → unsent = none
  | [], hu, number, cursor => by
    -- without replies the walk ends with the part that it asks for, whatever the part says
    rcases tells_fetch h number cursor hu with
      ⟨turns, unsent, failure, ho, htells⟩ | ⟨turn, listing, -, ho, htells⟩
    · have hrun : follow client ask [] number cursor = _ := Call.run_bind_of_error ho
      rw [hrun]
      exact ⟨turns, unsent, htells.of_events _, fun walk hw => by cases hw⟩
    · have hrun : follow client ask [] number cursor = _ := Call.run_bind_of_ok ho
      rw [hrun]
      exact ⟨[turn], none, htells.append_silent (Call.IsSilent.pure _ _) _, fun _ _ => rfl⟩
  | reply :: rest, hu, number, cursor => by
    rcases tells_fetch h number cursor hu with
      ⟨turns, unsent, failure, ho, htells⟩ | ⟨turn, listing, hp, ho, htells⟩
    · have hrun : follow client ask (reply :: rest) number cursor = _ := Call.run_bind_of_error ho
      rw [hrun]
      exact ⟨turns, unsent, htells.of_events _, fun walk hw => by cases hw⟩
    · have hrun : follow client ask (reply :: rest) number cursor = _ := Call.run_bind_of_ok ho
      rw [hrun]
      cases hc : listing.continuation? with
      | none =>
        exact ⟨[turn], none, htells.append_silent (Call.IsSilent.pure _ _) _, fun _ _ => rfl⟩
      | some next =>
        -- one part has been counted, so the rest of the walk counts from the next number on
        obtain ⟨turns, unsent, hrest, hnone⟩ := tells_follow h rest
          (fun hm => hu (List.mem_cons_of_mem _ hm)) (number + 1) (some next)
        have hcount : ([turn].filterMap (Turn.counted? true)).length = 1 := by simp [hp]
        refine ⟨[turn] ++ turns, unsent, htells.append ?_ _, fun walk hw => ?_⟩
        · rw [hcount]
          exact hrest.of_events ((follow client ask rest (number + 1) (some next)).outcome.map
            (goOn listing))
        · obtain ⟨onward, hok, -⟩ := map_eq_ok_iff.1 hw
          exact hnone onward hok

/-- A walk tells its parts one after the other. -/
theorem tells_all (h : ∀ cursor, (client.perform (ask cursor)).Asks client
    fun listing => some listing.part) : (Walk.all client ask).Tells client true 1 :=
  fun replies hu => tells_follow h replies hu 1 none

end Walk

/-! ## Operations -/

namespace Project

open Call

variable {project : Project}

theorem tells_titleOf (kind : Kind) (block : Block) (walking : Bool) (number : Nat) :
    (project.titleOf kind block).Tells project.client walking number := by
  cases kind with
  | page => exact (IsSilent.pure _).tells
  | database =>
    exact ((asks_perform _ (.database block.id)).tells number fun _ _ => rfl).bind fun _ _ =>
      (IsSilent.pure _).tells

/-- Among the blocks, each database whose title is asked for is one turn. -/
theorem tells_matchesAmong (kind : Kind) (title : String) (walking : Bool) (blocks : List Block) :
    ∀ number, (project.matchesAmong kind title blocks).Tells project.client walking number := by
  induction blocks with
  | nil => exact fun _ => (IsSilent.pure _).tells
  | cons block rest ih =>
    intro number
    unfold matchesAmong
    split
    · exact (tells_titleOf kind block walking number).bind fun _ _ =>
        (ih _).bind fun _ _ => (IsSilent.pure _).tells
    · exact ih number

theorem isSilent_searching (kind : Kind) (parent : Identifier) (title : String)
    (walk : Walk Block) : (Call.log .debug (searchText kind parent title walk)).IsSilent := by
  refine IsSilent.log (LogLine.isNotable_debug ?_)
  delta searchText
  simp [String.toList_append]

/-- A search is a walk and the turns of the titles that are asked for. -/
theorem tells_matchingChildren (kind : Kind) (parent : Identifier) (title : String) :
    (project.matchingChildren kind parent title).Tells project.client true 1 :=
  (Walk.tells_all fun cursor => asks_perform _ (.children parent cursor)).bind fun walk _ =>
    (isSilent_searching kind parent title walk).tells.bind fun _ _ =>
      tells_matchesAmong kind title true walk.items _

theorem isSilent_writable (properties : Properties) : (writable properties).IsSilent := by
  refine (IsSilent.logAll fun text ht => ?_).bind fun _ => .pure _
  obtain ⟨name, -, rfl⟩ := List.mem_map.1 ht
  exact LogLine.isNotable_debug (by simp [String.toList_append])

theorem isSilent_givenProperties (given : Option Properties) :
    (givenProperties given).IsSilent := by
  unfold givenProperties
  split
  · exact .pure _
  · exact .pure _
  · exact (isSilent_writable _).bind fun _ => .pure _

/-- Whether a page exists is asked once, and what cannot be asked is a no. -/
theorem tells_pageExists (project : Project) (id : Identifier) {replies : List Reply}
    (hu : .unreachable ∉ replies) : ∃ turns unsent found,
      ((project.pageExists id).run (.scripted replies)).outcome = .ok found ∧
        ((project.pageExists id).run (.scripted replies)).Tells project.client false 1 replies turns
          unsent [] ∧ (found = true → unsent = none) := by
  have hask : (project.client.perform (Endpoint.page id)).Tells project.client false 1 :=
    (asks_perform project.client (.page id)).tells 1 (by simp)
  have htells : ∃ turns unsent, ((project.pageExists id).run (.scripted replies)).Tells
      project.client false 1 replies turns unsent [] ∧ ∀ page,
        ((project.client.perform (Endpoint.page id)).run (.scripted replies)).outcome = .ok page →
          unsent = none := by
    refine hask.attempt (fun outcome => ?_) hu
    cases outcome with
    | ok page => exact .pure true
    | error failure =>
      dsimp only
      split
      · exact (IsSilent.log (LogLine.isNotable_debug (by simp [String.toList_append]))).bind
          fun _ => .pure false
      · exact (IsSilent.warn _).bind fun _ => .pure false
  obtain ⟨turns, unsent, htells, hnone⟩ := htells
  cases ho : ((project.client.perform (Endpoint.page id)).run (.scripted replies)).outcome with
  | ok page =>
    exact ⟨turns, unsent, true, (comesTo_pageExists_of_ok ⟨ho, rfl, rfl⟩).outcome_eq, htells,
      fun _ => hnone page ho⟩
  | error failure =>
    exact ⟨turns, unsent, false, (comesTo_pageExists_of_error ⟨ho, rfl, rfl⟩).outcome_eq, htells,
      fun h => by cases h⟩

/-- What is done only if a page exists is told after the turn about the page. -/
theorem isTraced_ifExists {yes no : Call α} {created? : α → Option Identifier} (id : Identifier)
    (hyes : yes.IsTraced project.client false created?) (hno : no.IsSilent)
    (hnone : ∀ server, (no.run server).outcome.toOption.bind created? = none) :
    (project.pageExists id >>= fun found => if found = true then yes else no).IsTraced
      project.client false created? := by
  intro replies hu
  obtain ⟨turns, unsent, found, ho, htells, hsent⟩ := project.tells_pageExists id hu
  rw [run_bind_at ho htells.server_eq]
  cases found with
  | false =>
    refine ⟨turns, unsent, [], htells.append_silent ?_ _, by simp, ?_⟩
    · rw [htells.server_eq]
      exact hno _
    · simp [hnone]
  | true =>
    obtain rfl := hsent rfl
    obtain ⟨others, unsent, news, hothers, hinfo, hnames⟩ :=
      hyes (replies.drop turns.length) fun hm => hu (List.mem_of_mem_drop hm)
    refine ⟨turns ++ others, unsent, news, htells.append ?_ _, hinfo, hnames⟩
    have hcount : (turns.filterMap (Turn.counted? false)).length = 0 := by
      simp [Turn.counted?]
    rw [hcount]
    exact hothers

end Project

namespace Operation

open Call

/-- The operation walks through a list. -/
def walks : Operation → Bool
  | findOnly .. => true
  | findAll .. => true
  | sectionPage _ => true
  | queryDatabase .. => true
  | _ => false

/-- The identifier of what was created, of a result of an operation that creates. -/
def createdId? : (operation : Operation) → operation.Result → Option Identifier
  | createPage .., (id : Identifier) => some id
  | createDatabase .., (id : Identifier) => some id
  | createRecord .., (page : Page) => some page.id
  | _, _ => none

/-- Every operation is traced, and it walks or creates as its kind says. -/
theorem isTraced_call (project : Project) (operation : Operation) :
    (operation.call project).IsTraced project.client operation.walks operation.createdId? := by
  have hperform : ∀ inquiry : Inquiry,
      (project.client.perform inquiry.exchange).Tells project.client false 1 := fun inquiry =>
    (asks_perform project.client inquiry).tells 1 (by simp)
  cases operation with
  | findOnly kind parent title =>
    exact ((Project.tells_matchingChildren kind parent title).bind fun found _ =>
      (IsSilent.ofExcept _).tells).isTraced
  | findAll kind parent title =>
    exact ((Project.tells_matchingChildren kind parent title).bind fun found _ =>
      (IsSilent.ofExcept _).tells).isTraced
  | sectionPage part =>
    exact ((Project.tells_matchingChildren .page project.root part.title).bind fun found _ =>
      (IsSilent.ofExcept _).tells).isTraced
  | lookupPage id =>
    refine (hperform (.page id)).handle fun outcome => ?_
    cases outcome with
    | ok page => exact .pure _
    | error failure =>
      dsimp only
      split
      · exact .pure _
      · exact .fail failure
  | pageExists id =>
    intro replies hu
    obtain ⟨turns, unsent, found, ho, htells, -⟩ := project.tells_pageExists id hu
    exact ⟨turns, unsent, [], htells, by simp, by simp [createdId?]⟩
  | hasStructure id =>
    refine Project.isTraced_ifExists id ?_ ?_ fun _ => rfl
    · refine (hperform (.children id none)).handle fun outcome => ?_
      cases outcome with
      | error failure => exact (IsSilent.warn _).bind fun _ => .pure false
      | ok listing =>
        dsimp only
        split
        · exact .pure true
        · exact (IsSilent.warn _).bind fun _ => .pure false
    · exact (IsSilent.warn _).bind fun _ => .pure false
  | createPage parent title =>
    refine Project.isTraced_ifExists parent ?_ (.fail _) fun _ => rfl
    exact (hperform (.createPage _)).inform _ _ fun page => ⟨_, rfl, LogLine.names_of_eq rfl⟩
  | createDatabase parent title schema =>
    exact (hperform (.createDatabase _)).inform _ _ fun database =>
      ⟨_, rfl, LogLine.names_of_eq rfl⟩
  | database id => exact (hperform (.database id)).isTraced
  | createRecord id properties parent =>
    refine (Project.isSilent_writable properties).bind_isTraced fun properties => ?_
    exact (hperform (.createPage _)).inform _ _ fun page => ⟨_, rfl, LogLine.names_of_eq rfl⟩
  | updatePage id properties archived =>
    refine (Project.isSilent_givenProperties properties).bind_isTraced fun properties => ?_
    refine ((hperform (.updatePage id _)).bind fun page _ => IsSilent.tells ?_).isTraced
    exact (IsSilent.log (LogLine.isNotable_debug (by simp [String.toList_append]))).bind
      fun _ => .pure page
  | queryDatabase id options =>
    have hwalk := Walk.tells_all fun cursor =>
      asks_perform project.client (.query id (Project.partQuery options cursor))
    refine (hwalk.bind fun walk _ => IsSilent.tells ?_).isTraced
    exact (IsSilent.log (LogLine.isNotable_debug (by simp [String.toList_append]))).bind
      fun _ => .pure _
  | children parent cursor => exact (hperform (.children parent cursor)).isTraced

end Operation

/-! ## Reading a log -/

/-- The log of the run is a trace of the turns: the requests are theirs, and each is announced, in
order; the lines with the level of an error are the complaints about their answers; the lines about
parts are those of a walk, with their numbers; and there is one line of information, which names
what was created, if something was. After the turns an exchange may be announced that cannot be
sent. -/
structure Run.IsTrace (client : Client) (walking : Bool) (created : Option Identifier)
    (turns : List Turn) (unsent : Option Inquiry) (run : Run α) : Prop where
  requests_eq : run.requests = turns.map Turn.request
  announcements_eq : run.log.filter (·.announced?.isSome) =
    (turns.map Turn.inquiry ++ unsent.toList).map fun inquiry =>
      client.announcement inquiry.exchange
  methods_eq : run.log.filterMap LogLine.announced? =
    run.requests.map Request.method ++ (unsent.map (·.exchange.method)).toList
  errors_eq : run.log.filter (·.level = .error) = turns.filterMap Turn.complaint?
  parts_eq : run.log.filter LogLine.isPart =
    if walking then
      ((turns.filterMap Turn.part?).zipIdx 1).map fun numbered => numbered.1.line numbered.2
    else []
  news : List.Forall₂ LogLine.Names (run.log.filter (·.level = .info)) created.toList

namespace Run.Tells

variable {client : Client} {walking : Bool} {number : Nat} {replies : List Reply}
  {turns : List Turn} {unsent : Option Inquiry} {news : List LogLine} {run : Run α}

/-- What is picked from the events of a run, if it is picked from notable ones only. -/
theorem filterMap_events (h : run.Tells client walking number replies turns unsent news)
    {f : Event → Option γ} (hf : ∀ event, event.isNotable = false → f event = none) :
    run.events.filterMap f = (client.trace walking number turns).filterMap f ++
      (((unsent.map fun inquiry => client.announcement inquiry.exchange).toList ++ news).map
        Event.logged).filterMap f := by
  -- both sides pick from the notable events, for nothing is picked from the others
  rw [← List.filterMap_append, ← h.events_eq, List.filterMap_filter]
  refine List.filterMap_congr fun event _ => ?_
  cases he : event.isNotable with
  | true => rfl
  | false => simp [hf event he]

/-- A choice among notable lines is made in the trace and in what comes after it. -/
theorem filter_log (h : run.Tells client walking number replies turns unsent news)
    {p : LogLine → Bool} (hp : ∀ line, p line = true → line.isNotable = true) :
    run.log.filter p = ((client.trace walking number turns).filterMap Event.line?).filter p ++
      (((unsent.map fun inquiry => client.announcement inquiry.exchange).toList ++ news).filter
        p) := by
  have hlines : ∀ lines : List LogLine, (lines.map Event.logged).filterMap
      (fun event => event.line?.filter p) = lines.filter p := by
    intro lines
    rw [List.filterMap_map, ← List.filterMap_eq_filter]
    rfl
  rw [Run.log, List.filter_filterMap, List.filter_filterMap, ← hlines]
  refine h.filterMap_events fun event he => ?_
  cases event with
  | sent request => rfl
  | logged line =>
    have hline : p line = false := by
      by_contra hline
      rw [Event.isNotable, hp line (by simpa using hline)] at he
      cases he
    simp [Event.line?, Option.filter, hline]

/-- The requests of the run are those of the turns, in order. -/
theorem requests_eq (h : run.Tells client walking number replies turns unsent news) :
    run.requests = turns.map Turn.request := by
  have hlines : ∀ lines : List LogLine,
      (lines.map Event.logged).filterMap Event.request? = [] := by
    intro lines
    simp [List.filterMap_map, Function.comp_def, Event.request?]
  have hnotable : ∀ event : Event, event.isNotable = false → event.request? = none := by
    intro event he
    cases event with
    | sent request => cases he
    | logged line => rfl
  rw [Run.requests, h.filterMap_events hnotable, Client.requests_trace, hlines, List.append_nil]

/-- The announcement at the end of a trace is for debugging, and tells of no part. -/
theorem announced_unsent {line : LogLine}
    (hm : line ∈ (unsent.map fun inquiry => client.announcement inquiry.exchange).toList) :
    line.announced?.isSome = true ∧ line.level = .debug ∧ line.isPart = false := by
  obtain ⟨inquiry, -, rfl⟩ := Option.map_eq_some_iff.1 (Option.mem_toList.1 hm)
  exact ⟨by simp [Client.announced?_announcement], rfl, client.isPart_announcement _⟩

section News

variable (h : run.Tells client walking number replies turns unsent news)
  (hinfo : ∀ line ∈ news, line.level = .info)

include h hinfo

theorem filter_announced_log : run.log.filter (·.announced?.isSome) =
    (turns.map Turn.inquiry ++ unsent.toList).map fun inquiry =>
      client.announcement inquiry.exchange := by
  rw [h.filter_log fun line hl => by simp [LogLine.isNotable, hl],
    Client.filter_trace fun part number => by simp [Part.announced?_line], List.filter_append,
    List.filter_eq_self.2 fun line hm => (announced_unsent hm).1,
    List.filter_eq_nil_iff.2 fun line hm => by simp [LogLine.announced?, hinfo line hm]]
  simp only [Turn.filter_announced_lines, ← List.map_eq_flatMap]
  cases unsent <;> simp

/-- The errors of the log are the complaints of the turns. -/
theorem filter_error_log :
    run.log.filter (·.level = .error) = turns.filterMap Turn.complaint? := by
  rw [h.filter_log fun line hl => by simp [LogLine.isNotable, of_decide_eq_true hl],
    Client.filter_trace fun part number => rfl, List.filter_append,
    List.filter_eq_nil_iff.2 fun line hm => by simp [(announced_unsent hm).2.1],
    List.filter_eq_nil_iff.2 fun line hm => by simp [hinfo line hm]]
  simp only [Turn.filter_error_lines, List.append_nil, List.filterMap_eq_flatMap_toList]

theorem filter_isPart_log : run.log.filter LogLine.isPart =
    ((turns.filterMap (Turn.counted? walking)).zipIdx number).map fun numbered =>
      numbered.1.line numbered.2 := by
  rw [h.filter_log fun line hl => by simp [LogLine.isNotable, hl], Client.filter_isPart_trace,
    List.filter_append, List.filter_eq_nil_iff.2 fun line hm => by simp [(announced_unsent hm).2.2],
    List.filter_eq_nil_iff.2 fun line hm => by simp [LogLine.isPart, hinfo line hm]]
  simp

theorem filter_info_log : run.log.filter (·.level = .info) = news := by
  rw [h.filter_log fun line hl => by simp [LogLine.isNotable, of_decide_eq_true hl],
    Client.filter_trace fun part number => rfl, List.filter_append,
    List.filter_eq_nil_iff.2 fun line hm => by simp [(announced_unsent hm).2.1],
    List.filter_eq_self.2 fun line hm => by simp [hinfo line hm]]
  simp [Turn.filter_info_lines]

/-- Every request is announced in order, and after them the one that was not sent. -/
theorem announced_log : run.log.filterMap LogLine.announced? =
    run.requests.map Request.method ++ (unsent.map (·.exchange.method)).toList := by
  have hmethods : run.log.filterMap LogLine.announced? =
      (run.log.filter (·.announced?.isSome)).filterMap LogLine.announced? := by
    rw [List.filterMap_filter]
    refine List.filterMap_congr fun line _ => ?_
    cases line.announced? <;> rfl
  have hsent : turns.map (·.inquiry.exchange.method) = run.requests.map Request.method := by
    rw [h.requests_eq, List.map_map]
    refine List.map_congr_left fun turn ht => ?_
    exact (Client.method_of_request? (Option.filter_eq_some_iff.1 (h.course.sent turn ht)).1).symm
  rw [hmethods, h.filter_announced_log hinfo, ← hsent]
  cases unsent <;> simp [List.filterMap_map, Function.comp_def, Client.announced?_announcement]

/-- What a run tells can be read off its log. -/
theorem isTrace (hone : number = 1) {created : Option Identifier}
    (hnames : List.Forall₂ LogLine.Names news created.toList) :
    run.IsTrace client walking created turns unsent where
  requests_eq := h.requests_eq
  announcements_eq := h.filter_announced_log hinfo
  methods_eq := h.announced_log hinfo
  errors_eq := h.filter_error_log hinfo
  parts_eq := by
    rw [h.filter_isPart_log hinfo, hone]
    cases walking with
    | true => rfl
    | false => simp [Turn.counted?]
  news := by rwa [h.filter_info_log hinfo]

end News

end Run.Tells

namespace Project

/-- Against every list of replies, the log of an operation is a trace of its turns, and the log of a
call of any endpoint is the announcement of its request. If something cannot be sent, it is
announced at the end, and no request is made for it. -/
theorem log_isTrace (project : Project) {replies : List Reply} (hu : .unreachable ∉ replies) :
    (∀ operation : Operation,
      let run := (operation.call project).run (.scripted replies)
      ∃ turns unsent, Course project.client replies turns ∧
        (∀ inquiry ∈ unsent, project.client.sent? inquiry.exchange = none) ∧
        run.IsTrace project.client operation.walks (run.outcome.toOption.bind operation.createdId?)
          turns unsent) ∧
    ∀ method endpoint query body,
      let exchange := Endpoint.raw method endpoint query body
      let run := (project.client.perform exchange).run (.scripted replies)
      run.log = [project.client.announcement exchange] ∧
        (project.client.announcement exchange).announced? = some method ∧
        run.requests = (project.client.sent? exchange).toList ∧
        ∀ request ∈ run.requests, request.method = method := by
  refine ⟨fun operation => ?_, fun method endpoint query body => ?_⟩
  · obtain ⟨turns, unsent, news, htells, hinfo, hnames⟩ :=
      operation.isTraced_call project replies hu
    exact ⟨turns, unsent, htells.course, htells.unsent_eq, htells.isTrace hinfo rfl hnames⟩
  · obtain ⟨hmethod, hlog, hrequests⟩ := project.client.perform_raw method endpoint query body hu
    refine ⟨hlog, ?_, hrequests, fun request hm => ?_⟩
    · rw [Client.announced?_announcement, hmethod]
    · rw [hrequests, Option.mem_toList] at hm
      rw [Client.method_of_request? (Option.filter_eq_some_iff.1 hm).1, hmethod]

/-- A database that was created. -/
def sampleCreated : Reply :=
  .answer 200 "\x7b\"id\":\"30000000000040008000000000000000\"\x7d"

theorem comesTo_createDatabase_of_carries {project : Project} {parent : Identifier}
    {title : String} {schema : Schema} {request : Request} {reply : Reply} {database : Database}
    (hsent : project.client.sent? (Endpoint.createDatabase
      ⟨.page parent, [RichText.ofText title], schema⟩) = some request)
    (hc : reply.Carries Database.decode database) :
    ((project.createDatabase parent title schema).run (.scripted [reply])).ComesTo
      (.ok database.id) [request] (.scripted []) :=
  comesTo_createDatabase (Client.comesTo_carried rfl hsent hc [])

theorem exists_creation_sample : ∃ request id, request.method = .post ∧
    id.text = "30000000000040008000000000000000" ∧
    ((Project.createDatabase ⟨.ofRandom 0, .sample "http://h/v1"⟩ (.ofRandom 1) "A" .empty).run
      (.scripted [sampleCreated])).ComesTo (.ok id) [request] (.scripted []) := by
  obtain ⟨request, hsent⟩ := Option.isSome_iff_exists.1 (show ((Client.sample "http://h/v1").sent?
    (Endpoint.createDatabase ⟨.page (.ofRandom 1), [RichText.ofText "A"], .empty⟩)).isSome = true by
      decide +kernel)
  obtain ⟨database, hcarries, hid⟩ : ∃ database : Database,
      sampleCreated.Carries Database.decode database ∧
        database.id.text = "30000000000040008000000000000000" :=
    Reply.exists_carries (by decide +kernel)
  have hmethod := Client.method_of_request? (Option.filter_eq_some_iff.1 hsent).1
  exact ⟨request, database.id, hmethod, hid, comesTo_createDatabase_of_carries hsent hcarries⟩

/-- The creation of a database is logged once, with its identifier. -/
theorem log_isTrace_creation :
    let project : Project := ⟨.ofRandom 0, .sample "http://h/v1"⟩
    let run := (project.createDatabase (.ofRandom 1) "A" .empty).run (.scripted [sampleCreated])
    .unreachable ∉ [sampleCreated] ∧ ∃ request id line, run.requests = [request] ∧
      request.method = .post ∧ run.outcome = .ok id ∧
        id.text = "30000000000040008000000000000000" ∧
        run.log.filter (·.level = .info) = [line] ∧ line.Names id := by
  obtain ⟨request, id, hmethod, hid, hrun⟩ := exists_creation_sample
  have hu : .unreachable ∉ [sampleCreated] := by simp [sampleCreated]
  -- what is known of the run is enough, and keeps it from being evaluated
  generalize (⟨.ofRandom 0, .sample "http://h/v1"⟩ : Project) = project at hrun ⊢
  generalize [sampleCreated] = replies at hu hrun ⊢
  obtain ⟨turns, unsent, -, -, htrace⟩ :=
    (log_isTrace project hu).1 (.createDatabase (.ofRandom 1) "A" .empty)
  have hnews : List.Forall₂ LogLine.Names
      (((project.createDatabase (.ofRandom 1) "A" .empty).run (.scripted replies)).log.filter
        (·.level = .info))
      (((project.createDatabase (.ofRandom 1) "A" .empty).run
        (.scripted replies)).outcome.toOption.bind some).toList := htrace.news
  rw [hrun.outcome_eq] at hnews
  obtain ⟨line, lines, hline, hnone, hlines⟩ := List.forall₂_cons_right_iff.1 hnews
  obtain rfl := List.forall₂_nil_right_iff.1 hnone
  exact ⟨hu, request, id, line, hrun.requests_eq, hmethod, hrun.outcome_eq, hid, hlines, hline⟩

/-- At a host that no request can hold a request is announced, and none is made. -/
theorem log_announces_unsent : ∃ configured,
    Client.sampleConfig.withBaseUrl "http://a\x7db/v1" = .ok configured ∧
      ofConfig configured = .ok unsendable ∧
      let exchange := Endpoint.children (.ofRandom 0) none
      let run := (unsendable.client.perform exchange).run (.scripted [])
      run.requests = [] ∧ run.log.filterMap LogLine.announced? = [.get] := by
  obtain ⟨configured, hconfig, hproject⟩ := exists_configured_unsendable
  exact ⟨configured, hconfig, hproject, Client.announces_unsent sent?_unsendable _⟩

end Project

end NotionProject
