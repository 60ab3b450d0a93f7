import NotionProject.Proofs.BaseUrl
import NotionProject.Proofs.Operation

/-!
# What is seen of a key

A key signs requests and is not told to anyone else. `Run.unsigned` is all that is seen of a run but
the signatures of its requests, and two calls are alike (`Call.Alike`) if their runs against every
server agree in that. Calls that are put together of calls that are alike are alike
(`Alike.bind`, `Alike.attempt`).

The exchanges of two clients with the same base are alike, whatever their keys
(`Client.alike_perform`), so the walks are, by induction on the replies, the searches, by induction
on the blocks, and with them all operations (`Operation.alike_call`). Only the line that is logged
for a connection shows something of the key, and that is its beginning. So of two keys that begin
alike it cannot be told from a whole session which one it was (`Session.transcript_unsigned_eq`).
-/

namespace NotionProject

variable {α β : Type}

/-! ## Runs without signatures -/

/-- The request without its signature. -/
def Request.unsigned (request : Request) : Request :=
  { request with authorization := "" }

theorem Request.url_eq_of_unsigned {request request' : Request}
    (h : request.unsigned = request'.unsigned) : request.url = request'.url := by
  simpa [unsigned] using congrArg url h

/-- The event without the signature of its request. -/
def Event.unsigned : Event → Event
  | sent request => sent request.unsigned
  | logged line => logged line

namespace Run

/-- All that is seen of a run but the signatures of its requests. -/
def unsigned (run : Run α) : Run α :=
  { run with events := run.events.map Event.unsigned }

end Run

/-- The runs of the two calls differ in the signatures of their requests at most, whatever the
server. -/
def Call.Alike (first second : Call α) : Prop :=
  ∀ server, (first.run server).unsigned = (second.run server).unsigned

namespace Call

variable {first second : Call α} {next next' : α → Call β} {server : Server}

theorem Alike.refl (call : Call α) : call.Alike call :=
  fun _ => rfl

/-- Two runs in a row are seen of only what is seen of each. -/
theorem unsigned_run_bind (hc : (first.run server).unsigned = (second.run server).unsigned)
    (hn : ∀ value server,
      ((next value).run server).unsigned = ((next' value).run server).unsigned) :
    ((first >>= next).run server).unsigned = ((second >>= next').run server).unsigned := by
  obtain ⟨houtcome, hevents, hserver⟩ := Run.mk.inj hc
  cases ho : (first.run server).outcome with
  | error failure =>
    rw [run_bind_of_error ho, run_bind_of_error (houtcome ▸ ho)]
    simp only [Run.unsigned, hevents, hserver]
  | ok value =>
    rw [run_bind_of_ok ho, run_bind_of_ok (houtcome ▸ ho)]
    have hnext : ((next value).run (first.run server).server).unsigned =
        ((next' value).run (second.run server).server).unsigned :=
      hserver ▸ hn value (first.run server).server
    obtain ⟨houtcome', hevents', hserver'⟩ := Run.mk.inj hnext
    simp only [Run.unsigned, List.map_append, hevents, houtcome', hevents', hserver']

/-- Calls in a row are alike if each is, whatever value is handed on. -/
theorem Alike.bind (hc : first.Alike second) (hn : ∀ value, (next value).Alike (next' value)) :
    (first >>= next).Alike (second >>= next') :=
  fun server => unsigned_run_bind (hc server) hn

theorem Alike.attempt (h : first.Alike second) : first.attempt.Alike second.attempt := by
  intro server
  obtain ⟨houtcome, hevents, hserver⟩ := Run.mk.inj (h server)
  simp only [run_attempt, Run.unsigned, houtcome, hevents, hserver]

end Call

/-! ## Exchanges -/

open Call

namespace Client

/-- The key is seen in the signature of a request, and nowhere else in it. -/
theorem unsigned_requestTo (base : String) (key key' : ApiKey) (exchange : Exchange α) (url : Url) :
    (requestTo ⟨key, base⟩ exchange url).unsigned =
      (requestTo ⟨key', base⟩ exchange url).unsigned := by
  unfold requestTo
  dsimp only
  split <;> rfl

/-- Sending depends on the signature of a request only in what the server sees. -/
theorem alike_send {request request' : Request} (h : request.unsigned = request'.unsigned) :
    (send request).Alike (send request') := by
  intro server
  have hurl := Request.url_eq_of_unsigned h
  unfold send
  dsimp only
  split <;> simp [Run.unsigned, Event.unsigned, h, noAnswer, Request.target, hurl]

/-- What comes of an exchange does not depend on the key. -/
theorem alike_perform (base : String) (key key' : ApiKey) (exchange : Exchange α) :
    (perform ⟨key, base⟩ exchange).Alike (perform ⟨key', base⟩ exchange) := by
  refine (Alike.refl (log .debug (logText ⟨key, base⟩ exchange))).bind fun _ => ?_
  -- Whether there is a request depends on its URL alone, and no key is in that.
  cases hurl : Url.parse (base ++ "/" ++ exchange.endpoint) with
  | error error =>
    have hnone : ∀ key, request? ⟨key, base⟩ exchange = none := by
      intro key
      simp [request?, address, hurl]
    rw [hnone, hnone]
    exact Alike.refl _
  | ok url =>
    have hsome : ∀ key,
        request? ⟨key, base⟩ exchange = some (requestTo ⟨key, base⟩ exchange url) := by
      intro key
      simp [request?, address, hurl]
    have hsame := unsigned_requestTo base key key' exchange url
    have hreq := Request.url_eq_of_unsigned hsame
    rw [hsome, hsome]
    dsimp only
    rw [show (requestTo ⟨key, base⟩ exchange url).isSendable =
      (requestTo ⟨key', base⟩ exchange url).isSendable by simp only [Request.isSendable, hreq]]
    split
    · exact (alike_send hsame).bind fun _ => Alike.refl _
    · rw [noAnswer, hreq]
      exact Alike.refl _

end Client

/-! ## Walks -/

namespace Walk

variable {client client' : Client} {ask : Request α}
  (h : ∀ cursor, (client.perform (ask cursor)).Alike (client'.perform (ask cursor)))

include h

theorem alike_fetch (number : Nat) (cursor : Option String) :
    (fetch client ask number cursor).Alike (fetch client' ask number cursor) :=
  (h cursor).bind fun _ => Alike.refl _

/-- The requests of a walk are alike reply by reply. -/
theorem unsigned_follow : ∀ (replies : List Reply) (number : Nat) (cursor : Option String),
    (follow client ask replies number cursor).unsigned =
      (follow client' ask replies number cursor).unsigned
  | [], number, cursor => unsigned_run_bind (alike_fetch h number cursor _) fun _ _ => rfl
  | reply :: rest, number, cursor => by
    refine unsigned_run_bind (alike_fetch h number cursor _) fun listing _ => ?_
    split
    · rfl
    · next cursor _ =>
      -- The first parts are the same listing, so both walks go on at its cursor.
      obtain ⟨houtcome, hevents, hserver⟩ :=
        Run.mk.inj (unsigned_follow rest (number + 1) (some cursor))
      simp only [Run.unsigned, houtcome, hevents, hserver]

/-- So two walks with different keys are alike. -/
theorem alike_all : (all client ask).Alike (all client' ask) := by
  intro server
  cases server with
  | offline => exact unsigned_run_bind (alike_fetch h 1 none _) fun _ _ => rfl
  | scripted replies => exact unsigned_follow h replies 1 none

end Walk

/-! ## Operations -/

section Operations

variable {project project' : Project}
  (h : ∀ {α : Type} (exchange : Exchange α),
    (project.client.perform exchange).Alike (project'.client.perform exchange))

include h

namespace Project

theorem alike_matchesAmong (kind : Kind) (title : String) (blocks : List Block) :
    (project.matchesAmong kind title blocks).Alike (project'.matchesAmong kind title blocks) := by
  induction blocks with
  | nil => exact Alike.refl _
  | cons block rest ih =>
    have htitle : (project.titleOf kind block).Alike (project'.titleOf kind block) := by
      cases kind with
      | page => exact Alike.refl _
      | database => exact (h _).bind fun _ => Alike.refl _
    unfold matchesAmong
    split
    · exact htitle.bind fun _ => ih.bind fun _ => Alike.refl _
    · exact ih

theorem alike_matchingChildren (kind : Kind) (parent : Identifier) (title : String) :
    (project.matchingChildren kind parent title).Alike
      (project'.matchingChildren kind parent title) :=
  (Walk.alike_all fun cursor => h (Endpoint.children parent cursor)).bind fun walk =>
    (Alike.refl _).bind fun _ => alike_matchesAmong h kind title walk.items

theorem alike_pageExists (id : Identifier) :
    (project.pageExists id).Alike (project'.pageExists id) :=
  (h (Endpoint.page id)).attempt.bind fun _ => Alike.refl _

end Project

open Project in
/-- An operation on either of two projects with the same root, whose exchanges are alike. -/
theorem Operation.alike_call (hroot : project.root = project'.root) (operation : Operation) :
    (operation.call project).Alike (operation.call project') := by
  cases operation with
  | findOnly kind parent title =>
    exact (alike_matchingChildren h kind parent title).bind fun _ => Alike.refl _
  | findAll kind parent title =>
    exact (alike_matchingChildren h kind parent title).bind fun _ => Alike.refl _
  | sectionPage part =>
    refine Alike.bind ?_ fun _ => Alike.refl _
    rw [hroot]
    exact alike_matchingChildren h .page project'.root part.title
  | lookupPage id => exact (h (Endpoint.page id)).attempt.bind fun _ => Alike.refl _
  | pageExists id => exact alike_pageExists h id
  | hasStructure id =>
    refine (alike_pageExists h id).bind fun found => ?_
    split
    · exact (h (Endpoint.children id none)).attempt.bind fun _ => Alike.refl _
    · exact Alike.refl _
  | createPage parent title =>
    refine (alike_pageExists h parent).bind fun found => ?_
    split
    · exact (h _).bind fun _ => Alike.refl _
    · exact Alike.refl _
  | createDatabase parent title schema => exact (h _).bind fun _ => Alike.refl _
  | database id => exact h (Endpoint.database id)
  | createRecord id properties parent =>
    exact (Alike.refl _).bind fun _ => (h _).bind fun _ => Alike.refl _
  | updatePage id properties archived =>
    exact (Alike.refl _).bind fun _ => (h _).bind fun _ => Alike.refl _
  | queryDatabase id options =>
    exact (Walk.alike_all fun cursor => h (Endpoint.query id (partQuery options cursor))).bind
      fun _ => Alike.refl _
  | children parent cursor => exact h (Endpoint.children parent cursor)

end Operations

/-- An operation of a project shows of its key only the signatures. -/
theorem Operation.alike_keys (root : Identifier) (base : String) (key key' : ApiKey)
    (operation : Operation) :
    (operation.call ⟨root, ⟨key, base⟩⟩).Alike (operation.call ⟨root, ⟨key', base⟩⟩) :=
  @Operation.alike_call ⟨root, ⟨key, base⟩⟩ ⟨root, ⟨key', base⟩⟩
    (fun exchange => Client.alike_perform base key key' exchange) rfl operation

/-! ## Sessions -/

/-- All of a session but the key: a root, the text of a base URL, and operations one after the
other, each with the server that it meets. -/
structure Session where
  root : Identifier
  base : String
  steps : List (Operation × Server)

/-- What is seen of a session: the description of the project, the log of the connection, and the
run of each operation. -/
structure Transcript where
  description : String
  log : List LogLine
  runs : List (Σ operation : Operation, Run operation.Result)

/-- The transcript without the signatures of the requests. -/
def Transcript.unsigned (transcript : Transcript) : Transcript :=
  { transcript with runs := transcript.runs.map fun run => ⟨run.1, run.2.unsigned⟩ }

/-- The signatures of the requests, run by run. -/
def Transcript.signatures (transcript : Transcript) : List (List String) :=
  transcript.runs.map fun run => run.2.requests.map Request.authorization

theorem ApiKey.parse_eq_ok_iff {text : String} {key : ApiKey} :
    parse text = .ok key ↔ key.text = text := by
  unfold parse
  split
  · rw [Except.ok.injEq]
    constructor
    · rintro rfl
      rfl
    · rintro rfl
      rfl
  · next hfault =>
    refine ⟨nofun, ?_⟩
    rintro rfl
    rw [key.accepted] at hfault
    cases hfault

theorem Config.readKey_eq_ok_iff {text : String} {key : ApiKey} :
    readKey text = .ok key ↔ key.text = text := by
  rw [← ApiKey.parse_eq_ok_iff, readKey]
  split
  · next h => rw [h, Except.ok.injEq, Except.ok.injEq]
  · next h => simp [h]

/-- A client is made of a key that fits a header field, and only of such a key. -/
theorem Client.of_ofConfig {config : Config} {client : Client} (h : ofConfig config = .ok client) :
    config.key.fitsHeader = true := by
  unfold ofConfig at h
  split at h
  · assumption
  · cases h

/-- Connecting with a key that fits a header field says what the key begins with. -/
theorem Project.run_connect {config : Config} (h : config.key.fitsHeader = true) (server : Server) :
    (connect config).run server =
      ⟨.ok ⟨config.root, ⟨config.key, config.baseUrl.base⟩⟩,
        [.logged ⟨.debug, "Connecting to " ++ config.baseUrl.text ++ " with key " ++
          config.key.redacted ++ " (root " ++ config.root.text ++ ")"⟩], server⟩ := by
  have hproject : ofConfig config = .ok ⟨config.root, ⟨config.key, config.baseUrl.base⟩⟩ := by
    simp only [ofConfig, Client.ofConfig, h, if_true]
    rfl
  rw [connect, hproject]
  rfl

namespace Session

/-- What is seen of a session with a key, or why there is none. -/
def transcript (session : Session) (key : String) : Except Failure Transcript := do
  let key ← Config.readKey key
  let config ← (Config.new session.root key).withBaseUrl session.base
  let connection := (Project.connect config).run (.scripted [])
  let project ← connection.outcome
  pure
    { description := project.description
      log := connection.log
      runs := session.steps.map fun step => ⟨step.1, (step.1.call project).run step.2⟩ }

/-- What is seen of a session with a base that is a URL and a key that fits a header field. -/
theorem transcript_eq {session : Session} {text : String} {key : ApiKey} {url : Url}
    (hkey : Config.readKey text = .ok key) (hfits : key.fitsHeader = true)
    (hbase : Url.parse session.base = .ok url) :
    session.transcript text = .ok
      { description := "NotionBackend(root_page_id=" ++ session.root.text ++ ")"
        log := [⟨.debug, "Connecting to " ++ url.text ++ " with key " ++ key.redacted ++
          " (root " ++ session.root.text ++ ")"⟩]
        runs := session.steps.map fun step =>
          ⟨step.1, (step.1.call ⟨session.root, ⟨key, url.base⟩⟩).run step.2⟩ } := by
  unfold transcript
  rw [hkey]
  simp only [bind, Except.bind, Config.withBaseUrl_of_parse _ hbase]
  rw [Project.run_connect (by exact hfits)]
  rfl

/-- Two keys that begin alike are not told apart by anything that is seen of a session but the
signatures of its requests: not by its results and failures, its logs, the description of its
project, what is left of its servers, or what else its requests are. -/
theorem transcript_unsigned_eq (session : Session) {text text' : String} {key key' : ApiKey}
    {client client' : Client} (hkey : Config.readKey text = .ok key)
    (hkey' : Config.readKey text' = .ok key')
    (hclient : Client.ofConfig (.new session.root key) = .ok client)
    (hclient' : Client.ofConfig (.new session.root key') = .ok client')
    (hshown : text.toList.take 10 = text'.toList.take 10) :
    (session.transcript text).map Transcript.unsigned =
      (session.transcript text').map Transcript.unsigned := by
  have hfits := Client.of_ofConfig hclient
  have hfits' := Client.of_ofConfig hclient'
  cases hbase : Url.parse session.base with
  | error error =>
    simp [transcript, hkey, hkey', Config.withBaseUrl, hbase, bind, Except.bind]
  | ok url =>
    have hredacted : key.redacted = key'.redacted := by
      rw [ApiKey.redacted, ApiKey.redacted, Config.readKey_eq_ok_iff.1 hkey,
        Config.readKey_eq_ok_iff.1 hkey', ApiKey.shownLength, hshown]
    have hrun : ∀ step : Operation × Server,
        ((step.1.call ⟨session.root, ⟨key, url.base⟩⟩).run step.2).unsigned =
          ((step.1.call ⟨session.root, ⟨key', url.base⟩⟩).run step.2).unsigned :=
      fun step => step.1.alike_keys session.root url.base key key' step.2
    rw [transcript_eq hkey hfits hbase, transcript_eq hkey' hfits' hbase]
    simp only [Except.map, Transcript.unsigned, hredacted, List.map_map, Except.ok.injEq,
      Transcript.mk.injEq, true_and]
    exact List.map_congr_left fun step _ => congrArg (Sigma.mk step.1) (hrun step)

/-- A session of one operation. -/
def sample : Session :=
  ⟨.ofRandom 0, "http://h/v1", [(.database (.ofRandom 1), .scripted [])]⟩

/-- Two keys that are told apart by the signature of the one request, and by nothing else. -/
theorem transcript_unsigned_eq_sample :
    (sample.transcript "secret_0123456789abc").map Transcript.unsigned =
        (sample.transcript "secret_012-other-one").map Transcript.unsigned ∧
      (sample.transcript "secret_0123456789abc").toOption.map Transcript.signatures =
        some [["Bearer secret_0123456789abc"]] ∧
      (sample.transcript "secret_012-other-one").toOption.map Transcript.signatures =
        some [["Bearer secret_012-other-one"]] := by
  let key : ApiKey := ⟨"secret_0123456789abc", by decide +kernel⟩
  let key' : ApiKey := ⟨"secret_012-other-one", by decide +kernel⟩
  have hfits : key.fitsHeader = true := by decide +kernel
  have hfits' : key'.fitsHeader = true := by decide +kernel
  refine ⟨?_, by decide +kernel, by decide +kernel⟩
  exact sample.transcript_unsigned_eq (Config.readKey_eq_ok_iff.2 (show key.text = _ from rfl))
    (Config.readKey_eq_ok_iff.2 (show key'.text = _ from rfl)) (if_pos hfits) (if_pos hfits')
    (by decide +kernel)

end Session

end NotionProject
