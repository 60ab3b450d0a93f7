import NotionProject.Failure
import NotionProject.Http.Server

/-!
# Calls

A `Call` is a program that talks to a server and keeps a log. Running it against a server
gives a `Run`: the result or the failure, what happened on the way in the order in which it
happened, and what is left of the server. A failure ends the call, unless `Call.attempt`
asks for it.
-/

namespace NotionProject

/-- The severity of a line of the log. -/
inductive Level where
  | debug
  | info
  | warn
  | error
deriving DecidableEq

/-- The name of the severity. -/
def Level.name : Level → String
  | debug => "DEBUG"
  | info => "INFO"
  | warn => "WARN"
  | error => "ERROR"

/-- A line of the log. -/
structure LogLine where
  level : Level
  text : String
deriving DecidableEq

/-- What happens in a call: a request reaches the server, or a line is logged. -/
inductive Event where
  | sent (request : Request)
  | logged (line : LogLine)

/-- The request of an event. -/
def Event.request? : Event → Option Request
  | sent request => some request
  | logged _ => none

/-- The line of an event. -/
def Event.line? : Event → Option LogLine
  | sent _ => none
  | logged line => some line

/-- What came of a call. -/
structure Run (α : Type) where
  outcome : Except Failure α
  events : List Event
  server : Server

namespace Run

variable {α : Type}

/-- The requests that reached the server, in order. -/
def requests (run : Run α) : List Request :=
  run.events.filterMap Event.request?

/-- The log, in order. -/
def log (run : Run α) : List LogLine :=
  run.events.filterMap Event.line?

end Run

/-- A program that talks to a server: what its run against any server comes to. -/
@[ext]
structure Call (α : Type) where
  run : Server → Run α

namespace Call

variable {α β : Type}

/-- Nothing but a result. -/
def result (value : α) : Call α where
  run server := ⟨.ok value, [], server⟩

/-- Nothing but a failure. -/
def fail (failure : Failure) : Call α where
  run server := ⟨.error failure, [], server⟩

/-- A call, and then another one that depends on its result. -/
def andThen (call : Call α) (next : α → Call β) : Call β where
  run server :=
    let first := call.run server
    match first.outcome with
    | .error failure => ⟨.error failure, first.events, first.server⟩
    | .ok value =>
      let second := (next value).run first.server
      ⟨second.outcome, first.events ++ second.events, second.server⟩

instance : Monad Call where
  pure := result
  bind := andThen

/-- What is known without talking to the server. -/
def ofExcept : Except Failure α → Call α
  | .ok value => result value
  | .error failure => fail failure

/-- The call with its failure as a result. -/
def attempt (call : Call α) : Call (Except Failure α) where
  run server :=
    let first := call.run server
    ⟨.ok first.outcome, first.events, first.server⟩

/-- Logs a line. -/
def log (level : Level) (text : String) : Call Unit where
  run server := ⟨.ok (), [.logged ⟨level, text⟩], server⟩

/-- Logs lines of one severity. -/
def logAll (level : Level) (texts : List String) : Call Unit where
  run server := ⟨.ok (), texts.map fun text => .logged ⟨level, text⟩, server⟩

/-! ## Laws -/

@[simp] theorem run_pure (value : α) (server : Server) :
    (pure value : Call α).run server = ⟨.ok value, [], server⟩ := rfl

@[simp] theorem run_fail (failure : Failure) (server : Server) :
    (fail failure : Call α).run server = ⟨.error failure, [], server⟩ := rfl

@[simp] theorem run_log (level : Level) (text : String) (server : Server) :
    (log level text).run server = ⟨.ok (), [.logged ⟨level, text⟩], server⟩ := rfl

@[simp] theorem run_attempt (call : Call α) (server : Server) :
    call.attempt.run server =
      ⟨.ok (call.run server).outcome, (call.run server).events, (call.run server).server⟩ := rfl

/-- After a result the next call goes on with what is left of the server. -/
theorem run_bind_of_ok {call : Call α} {next : α → Call β} {server : Server} {value : α}
    (h : (call.run server).outcome = .ok value) :
    (call >>= next).run server =
      let first := call.run server
      let second := (next value).run first.server
      ⟨second.outcome, first.events ++ second.events, second.server⟩ := by
  simp [bind, andThen, h]

/-- After a failure there is no next call. -/
theorem run_bind_of_error {call : Call α} {next : α → Call β} {server : Server}
    {failure : Failure} (h : (call.run server).outcome = .error failure) :
    (call >>= next).run server =
      ⟨.error failure, (call.run server).events, (call.run server).server⟩ := by
  simp [bind, andThen, h]

instance : LawfulMonad Call := LawfulMonad.mk' Call
  (by
    intro α call
    ext server : 2
    rcases h : call.run server with ⟨outcome, events, left⟩
    cases outcome <;> simp [Functor.map, andThen, result, h])
  (by
    intro α β value next
    ext server : 2
    simp [bind, pure, andThen, result])
  (by
    intro α β γ call next last
    ext server : 2
    cases hc : (call.run server).outcome with
    | error failure => simp [bind, andThen, hc]
    | ok value =>
      cases hn : ((next value).run (call.run server).server).outcome <;>
        simp [bind, andThen, hc, hn])

end Call

end NotionProject
