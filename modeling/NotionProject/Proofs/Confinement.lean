import NotionProject.Endpoint
import NotionProject.Finding

/-!
# Confinement

What a call can do at all, whatever the server: `Call.Confined sends fails` says that all its
requests have one property and all its failures another. Calls that are put together stay
confined (`Confined.bind`, `Confined.attempt`), so the rest is shown of single exchanges only.

An exchange is confined to its own request and to the failures of exchanges: no answer, an error
that the server reports, or an answer that makes no sense (`confined_perform`). By induction on
the replies a walk does nothing that asking for one of its parts does not do
(`Walk.confined_all`), and by induction on the blocks the same holds of a search by title
(`Project.confined_matchingChildren`). So it is never a server that says that nothing was found,
or too much.
-/

namespace NotionProject

variable {α β : Type} {sends sends' : NotionProject.Request → Prop} {fails fails' : Failure → Prop}

/-- The failure is one of an exchange. -/
def Failure.IsOfExchange : Failure → Prop
  | network _ => True
  | api _ => True
  | malformed _ => True
  | _ => False

/-! ## Runs and calls -/

/-- All requests of the run have the one property, and its failure has the other. -/
structure Run.Confined (sends : Request → Prop) (fails : Failure → Prop) (run : Run α) :
    Prop where
  sends_of_mem : ∀ request ∈ run.requests, sends request
  fails_of_eq : ∀ failure, run.outcome = .error failure → fails failure

/-- A run with another value has the same requests and the same failure. -/
theorem Run.Confined.map {run : Run α} (h : run.Confined sends fails) (f : α → β) :
    (⟨run.outcome.map f, run.events, run.server⟩ : Run β).Confined sends fails where
  sends_of_mem := h.sends_of_mem
  fails_of_eq failure ho := by
    cases hr : run.outcome with
    | ok value =>
      rw [hr] at ho
      cases ho
    | error failure' =>
      rw [hr] at ho
      obtain rfl := Except.error.inj ho
      exact h.fails_of_eq failure' hr

/-- The runs of the call are confined, whatever the server. -/
def Call.Confined (sends : Request → Prop) (fails : Failure → Prop) (call : Call α) : Prop :=
  ∀ server, (call.run server).Confined sends fails

namespace Call

variable {call : Call α} {next : α → Call β} {server : Server}

theorem confined_pure (value : α) : (pure value : Call α).Confined sends fails :=
  fun _ => ⟨by simp [Run.requests], by simp⟩

theorem confined_fail {failure : Failure} (h : fails failure) :
    (fail failure : Call α).Confined sends fails := by
  refine fun _ => ⟨by simp [Run.requests], fun failure' ho => ?_⟩
  obtain rfl := Except.error.inj ho
  exact h

theorem confined_log (level : Level) (text : String) : (log level text).Confined sends fails :=
  fun _ => ⟨by simp [Run.requests, Event.request?], by simp⟩

theorem confined_logAll (level : Level) (texts : List String) :
    (logAll level texts).Confined sends fails := by
  refine fun _ => ⟨fun request hm => ?_, fun failure ho => by cases ho⟩
  obtain ⟨event, he, hr⟩ := List.mem_filterMap.1 hm
  obtain ⟨text, -, rfl⟩ := List.mem_map.1 he
  cases hr

theorem confined_ofExcept {known : Except Failure α} (h : ∀ failure, known = .error failure →
    fails failure) : (ofExcept known).Confined sends fails := by
  cases known with
  | ok value => exact confined_pure value
  | error failure => exact confined_fail (h failure rfl)

/-- The run of two calls in a row is confined if both their runs are. -/
theorem confined_run_bind (hc : (call.run server).Confined sends fails)
    (hn : ∀ value, (call.run server).outcome = .ok value →
      ((next value).run (call.run server).server).Confined sends fails) :
    ((call >>= next).run server).Confined sends fails := by
  cases ho : (call.run server).outcome with
  | error failure =>
    rw [run_bind_of_error ho]
    refine ⟨hc.sends_of_mem, fun failure' he => ?_⟩
    obtain rfl := Except.error.inj he
    exact hc.fails_of_eq failure ho
  | ok value =>
    rw [run_bind_of_ok ho]
    refine ⟨fun request hm => ?_, (hn value ho).fails_of_eq⟩
    rw [Run.requests, List.filterMap_append, List.mem_append] at hm
    exact hm.elim (hc.sends_of_mem request) ((hn value ho).sends_of_mem request)

namespace Confined

theorem mono (h : call.Confined sends fails) (hs : ∀ request, sends request → sends' request)
    (hf : ∀ failure, fails failure → fails' failure) : call.Confined sends' fails' :=
  fun server => ⟨fun request hm => hs request ((h server).sends_of_mem request hm),
    fun failure ho => hf failure ((h server).fails_of_eq failure ho)⟩

/-- Two calls in a row do nothing that neither of them does. -/
theorem bind (hc : call.Confined sends fails) (hn : ∀ value, (next value).Confined sends fails) :
    (call >>= next).Confined sends fails :=
  fun server => confined_run_bind (hc server) fun value _ => hn value _

/-- A call whose failure is asked for never fails. -/
theorem attempt (hc : call.Confined sends fails') : call.attempt.Confined sends fails :=
  fun server => ⟨(hc server).sends_of_mem, fun failure ho => by cases ho⟩

end Confined

end Call

/-! ## Exchanges -/

open Call

/-- Reading an answer asks for nothing, and fails only for what the answer is. -/
theorem Answer.confined_read (decode : Decoder α) (answer : Answer) :
    (Answer.read decode answer).Confined sends Failure.IsOfExchange := by
  unfold Answer.read
  split
  · unfold Answer.readSuccess
    split
    · exact confined_pure _
    · exact (confined_log _ _).bind fun _ => confined_fail trivial
  · unfold Answer.readError
    split
    · exact (confined_log _ _).bind fun _ => confined_fail trivial
    · exact confined_fail trivial

namespace Client

/-- Sending makes one request at most. -/
theorem confined_send (request : Request) :
    (send request).Confined (· = request) Failure.IsOfExchange := by
  intro server
  unfold send
  cases ha : server.take.1.arrived with
  | answer status body =>
    simp only [ha]
    exact ⟨by simp [Run.requests, Event.request?], by simp⟩
  | dropped =>
    simp only [ha]
    refine ⟨by simp [Run.requests, Event.request?], fun failure ho => ?_⟩
    cases ho
    trivial
  | unreachable =>
    simp only [ha]
    refine ⟨by simp [Run.requests], fun failure ho => ?_⟩
    cases ho
    trivial

/-- An exchange makes no other request than its own, if reading the answer makes none. -/
theorem confined_perform_of_read (client : Client) {exchange : Exchange α}
    (hread : ∀ {sends : Request → Prop} (answer : Answer),
      (exchange.read answer).Confined sends Failure.IsOfExchange) :
    (client.perform exchange).Confined
      (fun request => client.request? exchange = some request ∧ request.isSendable = true)
      Failure.IsOfExchange := by
  refine (confined_log _ _).bind fun _ => ?_
  cases hr : client.request? exchange with
  | none => exact confined_fail trivial
  | some request =>
    by_cases hs : request.isSendable
    · simp only [hs, if_true]
      refine ((confined_send request).mono ?_ fun _ => id).bind fun answer => hread answer
      rintro _ rfl
      exact ⟨rfl, hs⟩
    · simp only [hs]
      exact confined_fail trivial

/-- An exchange whose answer is read as a value makes no other request than its own. -/
theorem confined_perform (client : Client) {exchange : Exchange α} {decode : Decoder α}
    (hread : exchange.read = Answer.read decode) :
    (client.perform exchange).Confined
      (fun request => client.request? exchange = some request ∧ request.isSendable = true)
      Failure.IsOfExchange :=
  client.confined_perform_of_read fun answer => hread ▸ answer.confined_read decode

end Client

/-! ## Walks -/

namespace Walk

variable {client : Client} {ask : Request α}

theorem confined_fetch (h : ∀ cursor, (client.perform (ask cursor)).Confined sends fails)
    (number : Nat) (cursor : Option String) :
    (fetch client ask number cursor).Confined sends fails :=
  (h cursor).bind fun _ => (confined_log _ _).bind fun _ => confined_pure _

theorem confined_follow (h : ∀ cursor, (client.perform (ask cursor)).Confined sends fails) :
    ∀ (replies : List Reply) (number : Nat) (cursor : Option String),
      (follow client ask replies number cursor).Confined sends fails
  | [], number, cursor =>
    confined_run_bind (confined_fetch h number cursor _) fun _ _ => confined_pure _ _
  | reply :: rest, number, cursor => by
    refine confined_run_bind (confined_fetch h number cursor _) fun listing _ => ?_
    split
    · exact confined_pure _ _
    · exact (confined_follow h rest (number + 1) _).map (goOn listing)

/-- A walk does nothing that asking for one of its parts does not do. -/
theorem confined_all (h : ∀ cursor, (client.perform (ask cursor)).Confined sends fails) :
    (all client ask).Confined sends fails := by
  intro server
  cases server with
  | offline => exact confined_run_bind (confined_fetch h 1 none _) fun _ _ => confined_pure _ _
  | scripted replies => exact confined_follow h replies 1 none

end Walk

/-! ## Searches -/

namespace Project

variable {project : Project}

theorem confined_titleOf
    (h : ∀ id, (project.client.perform (Endpoint.database id)).Confined sends fails)
    (kind : Kind) (block : Block) : (project.titleOf kind block).Confined sends fails := by
  cases kind with
  | page => exact confined_pure _
  | database => exact (h block.id).bind fun _ => confined_pure _

theorem confined_matchesAmong
    (h : ∀ id, (project.client.perform (Endpoint.database id)).Confined sends fails)
    (kind : Kind) (title : String) (blocks : List Block) :
    (project.matchesAmong kind title blocks).Confined sends fails := by
  induction blocks with
  | nil => exact confined_pure _
  | cons block rest ih =>
    unfold matchesAmong
    split
    · exact (confined_titleOf h kind block).bind fun _ => ih.bind fun _ => confined_pure _
    · exact ih

/-- A search does nothing that asking for a part of the children, or for a database, does not
do. -/
theorem confined_matchingChildren
    (hc : ∀ parent cursor,
      (project.client.perform (Endpoint.children parent cursor)).Confined sends fails)
    (hd : ∀ id, (project.client.perform (Endpoint.database id)).Confined sends fails)
    (kind : Kind) (parent : Identifier) (title : String) :
    (project.matchingChildren kind parent title).Confined sends fails :=
  (Walk.confined_all (hc parent)).bind fun walk => (confined_log _ _).bind fun _ =>
    confined_matchesAmong hd kind title walk.items

/-- It fails only for the failure of an exchange. -/
theorem isOfExchange_of_matchingChildren {kind : Kind} {parent : Identifier} {title : String}
    {server : Server} {failure : Failure}
    (h : ((project.matchingChildren kind parent title).run server).outcome = .error failure) :
    failure.IsOfExchange := by
  have hc : (project.matchingChildren kind parent title).Confined (fun _ => True)
      Failure.IsOfExchange :=
    confined_matchingChildren
      (fun _ _ => (project.client.confined_perform rfl).mono (fun _ _ => trivial) fun _ => id)
      (fun _ => (project.client.confined_perform rfl).mono (fun _ _ => trivial) fun _ => id)
      kind parent title
  exact (hc server).fails_of_eq failure h

end Project

end NotionProject
