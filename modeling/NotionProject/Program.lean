import NotionProject.CommandLine.Parser
import NotionProject.Finding
import NotionProject.Records

/-!
# The program

`Program.run` is all that the program does: it reads its arguments, makes the call that they
ask for, and reports what came of it. The result goes to the standard output, and only if
the call succeeded; the warnings and errors of the log and the failure go to the other
output.
-/

namespace NotionProject

namespace Program

open CommandLine (Invocation Command Stop)

/-- Why the program fails, in its own words, and what lies behind that. -/
structure Problem where
  text : String
  causes : List String
deriving DecidableEq

/-- The problem of a failure. -/
def Problem.ofFailure (failure : Failure) : Problem :=
  ⟨failure.message, failure.causes⟩

/-- A text with every line after the first one indented. -/
def indentLines (width : Nat) (text : String) : String :=
  String.ofList (text.toList.flatMap fun c =>
    if c = '\n' then '\n' :: List.replicate width ' ' else [c])

/-- The causes of a problem: one by itself, several with their numbers. -/
def causesText : List String → String
  | [] => ""
  | [cause] => "\n\nCaused by:\n    " ++ indentLines 4 cause
  | causes =>
    "\n\nCaused by:" ++ String.join (causes.zipIdx.map fun (cause, i) =>
      let number := toString i
      "\n" ++ String.ofList (List.replicate (5 - number.length) ' ') ++ number ++ ": " ++
        indentLines 7 cause)

/-- The report of a problem. -/
def Problem.report (problem : Problem) : String :=
  "Error: " ++ problem.text ++ causesText problem.causes ++ "\n"

/-! ## Commands -/

/-- A call of the program: its failure is a problem, its result a text. -/
abbrev Task := Call (Except Problem String)

/-- The task of a call whose result is shown. -/
def task {α : Type} (call : Call α) (render : α → String) : Task := do
  match ← call.attempt with
  | .ok value => pure (.ok (render value))
  | .error failure => pure (.error (.ofFailure failure))

/-- An identifier that was given as an argument. -/
def readId (text : String) : Except Problem Identifier :=
  match Identifier.parse text with
  | .ok id => .ok id
  | .error error => .error ⟨"'" ++ text ++ "' is not a Notion ID or URL", [error.refusal.message]⟩

/-- A task for an identifier that was given as an argument. -/
def withId (id : Except Problem Identifier) (task : Identifier → Task) : Task :=
  match id with
  | .ok id => task id
  | .error problem => pure (.error problem)

/-- The parent that was given, or the root. -/
def parentOrRoot (project : Project) : Option String → Except Problem Identifier
  | none => .ok project.root
  | some text => readId text

/-- An identifier on a line of its own. -/
def idLine (id : Identifier) : String :=
  id.text ++ "\n"

/-- What a search shows: the only match, or every match. -/
def search (project : Project) (kind : Kind) (parent : Option String) (title : String)
    (all : Bool) : Task :=
  withId (parentOrRoot project parent) fun parent =>
    if all then
      task (project.findAll kind parent title) fun ids => String.join (ids.map idLine)
    else task (project.findOnly kind parent title) idLine

/-- What the check of the root shows. -/
def validate (project : Project) : Task := do
  if ← project.hasStructure project.root then
    pure (.ok ("✓ " ++ project.root.text ++ " has a valid project structure\n"))
  else pure (.error ⟨project.root.text ++ " is not a valid project root", []⟩)

/-- What a command does. -/
def perform (project : Project) : Command → Task
  | .validate => validate project
  | .findPage title parent all => search project .page parent title all
  | .findDatabase title parent all => search project .database parent title all
  | .createPage title parent =>
    withId (parentOrRoot project parent) fun parent =>
      task (project.createPage parent title) idLine
  | .query database archived =>
    withId (readId database) fun id =>
      task (project.queryDatabase id ⟨none, [], archived⟩) fun records =>
        (Json.array (records.map Page.toJson)).pretty ++ "\n"

/-! ## The whole program -/

/-- What the program is run with. -/
structure Setting where
  arguments : List String
  key : Option String
  baseUrl : Option String

/-- What is seen of a run of the program. -/
structure Report where
  exit : Nat
  stdout : String
  stderr : String
  requests : List Request
  server : Server

/-- The configuration of a run. -/
def config (setting : Setting) (root : String) : Except Failure Config := do
  let config ← Config.ofEnvironment setting.key root
  match setting.baseUrl with
  | none => pure config
  | some url => config.withBaseUrl url

/-- The task of a run: to connect to the project and to do what is asked for. -/
def start (setting : Setting) (invocation : Invocation) : Task := do
  let project ← (do
    let config ← Call.ofExcept (config setting invocation.root)
    Project.connect config : Call Project).attempt
  match project with
  | .error failure => pure (.error (.ofFailure failure))
  | .ok project =>
    Call.log .info ("Using " ++ project.description)
    perform project invocation.command

/-- Whether a line of the log is shown. -/
def isShown (verbose : Bool) (line : LogLine) : Bool :=
  verbose || line.level == .warn || line.level == .error

/-- A line of the log as it is shown. -/
def logText (verbose : Bool) (line : LogLine) : String :=
  (if verbose then "[" ++ line.level.name ++ "] - " else "") ++ line.text ++ "\n"

/-- Reports a run of the task. -/
def report (verbose : Bool) (run : Run (Except Problem String)) : Report :=
  let log := String.join ((run.log.filter (isShown verbose)).map (logText verbose))
  match run.outcome with
  | .ok (.ok text) => ⟨0, text, log, run.requests, run.server⟩
  | .ok (.error problem) => ⟨1, "", log ++ problem.report, run.requests, run.server⟩
  | .error failure => ⟨1, "", log ++ (Problem.ofFailure failure).report, run.requests, run.server⟩

/-- Runs the program. Of the message about a mistake in the arguments only the first line is
reported. -/
def run (setting : Setting) (server : Server) : Report :=
  match CommandLine.parse setting.arguments with
  | .error (.help text) => ⟨0, text, "", [], server⟩
  | .error .version => ⟨0, CommandLine.versionText, "", [], server⟩
  | .error (.mistake error) => ⟨2, "", error.firstLine, [], server⟩
  | .ok invocation => report invocation.verbose ((start setting invocation).run server)

end Program

end NotionProject
