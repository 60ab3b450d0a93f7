import NotionProject.Program
import NotionProject.Proofs.Arguments
import NotionProject.Proofs.Resolution
import NotionProject.Proofs.Redaction
import NotionProject.Proofs.Uniqueness

/-!
# What the program reports

A command stands for one operation of the project (`Program.operation?`): the one with its title and
flags, on the parent that is given or on the root. `Program.Accepts` says which settings are
accepted, and for which project and operation: the key can be read and fits a header field, the base
is a URL, and the root and the identifiers of the command can be read.

`Program.Shows` describes a run of a task by the text that it shows, and its report follows from
that (`Report.of_shows`). A task shows what the result of its call is rendered as (`shows_task`),
and so a command shows what its operation comes to (`showsResult_perform`). `Program.run_reports`
puts the two together: without an accepted setting nothing is asked and nothing is written to the
standard output, and with one the report is that of the operation. Every invocation can be asked for
(`CommandLine.parse_write`).
-/

namespace NotionProject

variable {α β : Type}

/-! ## Operations -/

namespace Operation

/-- The operation has done what it is for: a check says yes, any other operation has a result. -/
def IsSuccess : (operation : Operation) → operation.Result → Prop
  | hasStructure _, (found : Bool) => found = true
  | _, _ => True

/-- The identifiers of the result that are shown. -/
def shownIds? : (operation : Operation) → operation.Result → Option (List Identifier)
  | findOnly .., (id : Identifier) => some [id]
  | findAll .., (ids : List Identifier) => some ids
  | createPage .., (id : Identifier) => some [id]
  | _, _ => none

/-- The run has a result that is a success. -/
def Succeeds (operation : Operation) (run : Run operation.Result) : Prop :=
  ∃ value, run.outcome = .ok value ∧ operation.IsSuccess value

end Operation

/-- Every match is one at least. -/
theorem Project.ne_nil_of_findAll {project : Project} {kind : Kind} {parent : Identifier}
    {title : String} {server : Server} {ids : List Identifier}
    (h : ((project.findAll kind parent title).run server).outcome.toOption = some ids) :
    ids ≠ [] := by
  obtain ⟨found, -, hfound⟩ := Call.outcome_bind_eq_ok_iff.1 (toOption_eq_some_iff.1 h)
  rw [(Call.comesTo_ofExcept _ _).outcome_eq] at hfound
  rintro rfl
  cases found <;> cases hfound

namespace Program

open CommandLine (Invocation Command)

/-! ## What is asked for -/

/-- The parent that is named, or the root if none is. -/
def parentId? (root : Identifier) : Option String → Option Identifier
  | none => some root
  | some text => (Identifier.parse text).toOption

/-- The operation of a search: for every match, or for the only one. -/
def searchOf (kind : Kind) (title : String) (all : Bool) (parent : Identifier) : Operation :=
  if all then .findAll kind parent title else .findOnly kind parent title

/-- The operation that a command stands for, if its identifiers can be read. -/
def operation? (root : Identifier) : Command → Option Operation
  | .validate => some (.hasStructure root)
  | .findPage title parent all => (parentId? root parent).map (searchOf .page title all)
  | .findDatabase title parent all => (parentId? root parent).map (searchOf .database title all)
  | .createPage title parent => (parentId? root parent).map fun parent => .createPage parent title
  | .query database archived =>
    (Identifier.parse database).toOption.map fun id => .queryDatabase id ⟨none, [], archived⟩

/-- The base of a setting: that of the public API, unless another one is given. -/
def base? : Option String → Option Url
  | none => some Config.publicBase
  | some text => (Url.parse text).toOption

/-- The setting is accepted, and stands for the operation in the project. -/
structure Accepts (setting : Setting) (invocation : Invocation) (project : Project)
    (operation : Operation) : Prop where
  key_eq : ∃ text, setting.key = some text ∧ ApiKey.parse text = .ok project.client.key
  key_fits : project.client.key.fitsHeader = true
  root_eq : Identifier.parse invocation.root = .ok project.root
  base_eq : (base? setting.baseUrl).map Url.base = some project.client.base
  operation_eq : operation? project.root invocation.command = some operation

/-! ## Reports -/

/-- The report is that of a run of the operation: it is told by the exit and by whether anything is
written to the standard output if the run succeeds, and then identifiers are written one on a line.
-/
structure Report.IsOf (operation : Operation) (run : Run operation.Result) (report : Report) :
    Prop where
  requests_eq : report.requests = run.requests
  server_eq : report.server = run.server
  succeeds_iff : report.exit = 0 ∧ report.stdout ≠ "" ↔ operation.Succeeds run
  of_not_succeeds : ¬operation.Succeeds run → report.exit ≠ 0 ∧ report.stdout = ""
  shows_ids : ∀ value ids, run.outcome = .ok value → operation.shownIds? value = some ids →
    report.stdout = String.join (ids.map fun id => id.text ++ "\n")

/-- Nothing is asked and nothing is written to the standard output. -/
structure Report.IsRefusal (server : Server) (report : Report) : Prop where
  requests_eq : report.requests = []
  server_eq : report.server = server
  exit_ne : report.exit ≠ 0
  stdout_eq : report.stdout = ""

/-- The text that the run of a task shows, its requests, and the server after it. -/
structure Shows (run : Run (Except Problem String)) (text : Option String)
    (requests : List Request) (server : Server) : Prop where
  text_eq : run.outcome.toOption.bind Except.toOption = text
  requests_eq : run.requests = requests
  server_eq : run.server = server

/-- A report has the text that is shown, and tells by its exit whether there is one. -/
theorem Report.of_shows {run : Run (Except Problem String)} {text : Option String}
    {requests : List Request} {server : Server} (h : Shows run text requests server)
    (verbose : Bool) :
    (report verbose run).requests = requests ∧ (report verbose run).server = server ∧
      (report verbose run).stdout = text.getD "" ∧
      ((report verbose run).exit = 0 ↔ text.isSome = true) := by
  obtain ⟨rfl, rfl, rfl⟩ := h
  unfold report
  rcases run with ⟨failure | problem | shown, events, left⟩ <;>
    exact ⟨rfl, rfl, rfl, by simp [Except.toOption]⟩

/-! ## Tasks -/

namespace Shows

variable {run : Run (Except Problem String)} {requests : List Request} {server : Server}

theorem of_comesTo {shown : Except Problem String}
    (h : run.ComesTo (.ok shown) requests server) : Shows run shown.toOption requests server :=
  ⟨by rw [h.outcome_eq]; rfl, h.requests_eq, h.server_eq⟩

/-- What is shown after a call that asks for nothing is what is shown in all. -/
theorem after {call : Call α} {next : α → Task} {value : α} {text : Option String} {left : Server}
    (hc : (call.run server).ComesTo (.ok value) [] server)
    (hn : Shows ((next value).run server) text requests left) :
    Shows ((call >>= next).run server) text requests left := by
  have hrun : ((call >>= next).run server).ComesTo _ _ _ := hc.after ⟨rfl, rfl, rfl⟩
  exact ⟨by rw [hrun.outcome_eq, hn.text_eq], by rw [hrun.requests_eq, hn.requests_eq],
    by rw [hrun.server_eq, hn.server_eq]⟩

end Shows

theorem shows_problem (problem : Problem) (server : Server) :
    Shows ((pure (.error problem) : Task).run server) none [] server :=
  .of_comesTo (Call.comesTo_pure _ server)

/-- A task shows what the result of its call is rendered as. -/
theorem shows_task (call : Call α) (render : α → String) (server : Server) :
    Shows ((task call render).run server)
      ((call.run server).outcome.toOption.bind fun value => some (render value))
      (call.run server).requests (call.run server).server := by
  have hcall : (call.run server).ComesTo (call.run server).outcome (call.run server).requests
      (call.run server).server := ⟨rfl, rfl, rfl⟩
  have hattempt := Call.comesTo_attempt hcall
  cases ho : (call.run server).outcome with
  | ok value =>
    rw [ho] at hattempt
    have hrun : ((task call render).run server).ComesTo (.ok (.ok (render value))) _ _ :=
      hattempt.andFinally (Call.comesTo_pure _ _)
    exact .of_comesTo hrun
  | error failure =>
    rw [ho] at hattempt
    have hrun : ((task call render).run server).ComesTo (.ok (.error (.ofFailure failure))) _ _ :=
      hattempt.andFinally (Call.comesTo_pure _ _)
    exact .of_comesTo hrun

/-- A check shows something only if it says yes. -/
theorem shows_validate (project : Project) (server : Server) :
    let run := (project.hasStructure project.root).run server
    Shows ((validate project).run server)
      (run.outcome.toOption.bind fun found => if found then
        some ("✓ " ++ project.root.text ++ " has a valid project structure\n") else none)
      run.requests run.server := by
  intro run
  have hcheck : ((project.hasStructure project.root).run server).ComesTo run.outcome run.requests
      run.server := ⟨rfl, rfl, rfl⟩
  cases ho : run.outcome with
  | error failure =>
    rw [ho] at hcheck
    have hrun : ((validate project).run server).ComesTo (.error failure) _ _ := hcheck.bind_error
    exact ⟨by rw [hrun.outcome_eq]; rfl, hrun.requests_eq, hrun.server_eq⟩
  | ok found =>
    rw [ho] at hcheck
    cases found with
    | true =>
      have hrun : ((validate project).run server).ComesTo (.ok (.ok _)) _ _ :=
        hcheck.andFinally (Call.comesTo_pure _ _)
      exact .of_comesTo hrun
    | false =>
      have hrun : ((validate project).run server).ComesTo (.ok (.error _)) _ _ :=
        hcheck.andFinally (Call.comesTo_pure _ _)
      exact .of_comesTo hrun

/-! ## Commands -/

theorem toOption_readId (text : String) :
    (readId text).toOption = (Identifier.parse text).toOption := by
  unfold readId
  cases Identifier.parse text <;> rfl

theorem toOption_parentOrRoot (project : Project) (parent : Option String) :
    (parentOrRoot project parent).toOption = parentId? project.root parent := by
  cases parent with
  | none => rfl
  | some text => exact toOption_readId text

/-- The text that is shown of a result of an operation that a command stands for. -/
def text? : (operation : Operation) → operation.Result → Option String
  | .hasStructure id, (found : Bool) =>
    if found then some ("✓ " ++ id.text ++ " has a valid project structure\n") else none
  | .findOnly .., (id : Identifier) => some (idLine id)
  | .findAll .., (ids : List Identifier) => some (String.join (ids.map idLine))
  | .createPage .., (id : Identifier) => some (idLine id)
  | .queryDatabase .., (records : List Page) =>
    some ((Json.array (records.map Page.toJson)).pretty ++ "\n")
  | _, _ => none

/-- The task shows what the operation comes to, and asks what the operation asks. -/
def ShowsResult (project : Project) (operation : Operation) (task : Task) : Prop :=
  ∀ server, let run := (operation.call project).run server
    Shows (task.run server) (run.outcome.toOption.bind (text? operation)) run.requests run.server

section WithId

variable {project : Project} {operation : Operation} {id : Except Problem Identifier}
  {task : Identifier → Task} {operationOf : Identifier → Operation}

theorem showsResult_withId (h : id.toOption.map operationOf = some operation)
    (ht : ∀ value, ShowsResult project (operationOf value) (task value)) :
    ShowsResult project operation (withId id task) := by
  cases id with
  | error problem => cases h
  | ok value =>
    obtain rfl := Option.some.inj h
    exact ht value

theorem shows_withId_of_none (h : id.toOption.map operationOf = none) (server : Server) :
    Shows ((withId id task).run server) none [] server := by
  cases id with
  | error problem => exact shows_problem problem server
  | ok id => cases h

end WithId

theorem showsResult_search (project : Project) (kind : Kind) (title : String) (all : Bool)
    (parent : Identifier) : ShowsResult project (searchOf kind title all parent)
      (if all then task (project.findAll kind parent title) fun ids => String.join (ids.map idLine)
        else task (project.findOnly kind parent title) idLine) := by
  cases all with
  | true => exact shows_task (project.findAll kind parent title) _
  | false => exact shows_task (project.findOnly kind parent title) _

/-- A command shows what its operation comes to. -/
theorem showsResult_perform (project : Project) {command : Command} {operation : Operation}
    (h : operation? project.root command = some operation) :
    ShowsResult project operation (perform project command) := by
  unfold operation? at h
  simp only [← toOption_parentOrRoot, ← toOption_readId] at h
  cases command with
  | validate =>
    obtain rfl := Option.some.inj h
    exact shows_validate project
  | findPage title parent all =>
    exact showsResult_withId h (showsResult_search project .page title all)
  | findDatabase title parent all =>
    exact showsResult_withId h (showsResult_search project .database title all)
  | createPage title parent =>
    exact showsResult_withId h fun parent => shows_task (project.createPage parent title) idLine
  | query database archived =>
    exact showsResult_withId h fun id =>
      shows_task (project.queryDatabase id ⟨none, [], archived⟩) _

/-- A command whose identifiers cannot be read shows nothing and asks for nothing. -/
theorem shows_perform_of_none (project : Project) {command : Command}
    (h : operation? project.root command = none) (server : Server) :
    Shows ((perform project command).run server) none [] server := by
  unfold operation? at h
  simp only [← toOption_parentOrRoot, ← toOption_readId] at h
  cases command with
  | validate => cases h
  | findPage title parent all => exact shows_withId_of_none h server
  | findDatabase title parent all => exact shows_withId_of_none h server
  | createPage title parent => exact shows_withId_of_none h server
  | query database archived => exact shows_withId_of_none h server

/-! ### What is shown of a success -/

/-- Identifiers are shown one on a line. -/
theorem text?_of_shownIds {operation : Operation} {value : operation.Result}
    {ids : List Identifier} (h : operation.shownIds? value = some ids) :
    text? operation value = some (String.join (ids.map fun id => id.text ++ "\n")) := by
  have hone : ∀ id : Identifier,
      some (idLine id) = some (String.join ([id].map fun id => id.text ++ "\n")) := by
    intro id
    simp [idLine]
  cases operation with
  | findOnly kind parent title =>
    obtain rfl := Option.some.inj h
    exact hone value
  | findAll kind parent title =>
    obtain rfl := Option.some.inj h
    rfl
  | createPage parent title =>
    obtain rfl := Option.some.inj h
    exact hone value
  | _ => cases h

section Text

variable {root : Identifier} {command : Command} {operation : Operation}
  (h : operation? root command = some operation)

include h

/-- A command stands for a check of the structure, a search, a creation, or a query. -/
theorem operation?_cases {motive : Operation → Prop} (hcheck : motive (.hasStructure root))
    (honly : ∀ kind parent title, motive (.findOnly kind parent title))
    (hall : ∀ kind parent title, motive (.findAll kind parent title))
    (hcreate : ∀ parent title, motive (.createPage parent title))
    (hquery : ∀ id options, motive (.queryDatabase id options)) : motive operation := by
  have hsearch : ∀ kind title all parent, motive (searchOf kind title all parent) := by
    intro kind title all parent
    cases all with
    | true => exact hall kind parent title
    | false => exact honly kind parent title
  cases command with
  | validate =>
    obtain rfl := Option.some.inj h
    exact hcheck
  | findPage title parent all =>
    obtain ⟨id, -, rfl⟩ := Option.map_eq_some_iff.1 h
    exact hsearch .page title all id
  | findDatabase title parent all =>
    obtain ⟨id, -, rfl⟩ := Option.map_eq_some_iff.1 h
    exact hsearch .database title all id
  | createPage title parent =>
    obtain ⟨id, -, rfl⟩ := Option.map_eq_some_iff.1 h
    exact hcreate id title
  | query database archived =>
    obtain ⟨id, -, rfl⟩ := Option.map_eq_some_iff.1 h
    exact hquery id _

/-- Something is shown of a result exactly if it is a success. -/
theorem isSome_text?_iff (value : operation.Result) :
    (text? operation value).isSome = true ↔ operation.IsSuccess value := by
  revert value
  refine operation?_cases (motive := fun operation => ∀ value : operation.Result,
    (text? operation value).isSome = true ↔ operation.IsSuccess value) h ?_ ?_ ?_ ?_ ?_
  · rintro (_ | _)
    · exact iff_of_false Bool.false_ne_true Bool.false_ne_true
    · exact iff_of_true rfl rfl
  · exact fun _ _ _ _ => iff_of_true rfl trivial
  · exact fun _ _ _ _ => iff_of_true rfl trivial
  · exact fun _ _ _ => iff_of_true rfl trivial
  · exact fun _ _ _ => iff_of_true rfl trivial

/-- A run shows something exactly if it succeeds. -/
theorem isSome_shown_iff (run : Run operation.Result) :
    (run.outcome.toOption.bind (text? operation)).isSome = true ↔ operation.Succeeds run := by
  unfold Operation.Succeeds
  cases run.outcome with
  | error failure => simp [Except.toOption]
  | ok value => simp [Except.toOption, isSome_text?_iff h]

/-- What a run shows is not empty, as a search for every match has a match. -/
theorem shown_ne_empty {project : Project} {server : Server} {text : String}
    (htext : ((operation.call project).run server).outcome.toOption.bind (text? operation) =
      some text) : text ≠ "" := by
  have hline : ∀ start : String, start ++ "\n" ≠ "" := by
    intro start hempty
    simpa using congrArg String.toList hempty
  obtain ⟨value, hvalue, ht⟩ := Option.bind_eq_some_iff.1 htext
  clear htext
  revert value
  refine operation?_cases (motive := fun operation => ∀ value : operation.Result,
    ((operation.call project).run server).outcome.toOption = some value →
      text? operation value = some text → text ≠ "") h ?_ ?_ ?_ ?_ ?_
  · rintro (_ | _) - ht
    · cases ht
    · obtain rfl := Option.some.inj ht
      simp
  · rintro kind parent title id - ht
    obtain rfl := Option.some.inj ht
    exact hline _
  · rintro kind parent title ids hids ht
    obtain rfl := Option.some.inj ht
    obtain ⟨id, rest, rfl⟩ := List.exists_cons_of_ne_nil (Project.ne_nil_of_findAll hids)
    rw [List.map_cons, String.join_cons]
    exact fun hempty => hline _ (String.append_eq_empty_iff.1 hempty).1
  · rintro parent title id - ht
    obtain rfl := Option.some.inj ht
    exact hline _
  · rintro id options records - ht
    obtain rfl := Option.some.inj ht
    exact hline _

end Text

/-! ## The whole program -/

/-- The project of a setting, if the setting is accepted. -/
def project (setting : Setting) (root : String) : Except Failure Project := do
  let config ← config setting root
  Project.ofConfig config

theorem comesTo_connect (setting : Setting) (root : String) (server : Server) :
    ((do let config ← Call.ofExcept (config setting root)
         Project.connect config : Call Project).run server).ComesTo (project setting root) []
      server := by
  have hconfig := Call.comesTo_ofExcept (config setting root) server
  unfold project
  cases hc : config setting root with
  | error failure =>
    rw [hc] at hconfig
    exact hconfig.bind_error
  | ok config =>
    rw [hc] at hconfig
    refine hconfig.after ?_
    have hproject := Call.comesTo_ofExcept (Project.ofConfig config) server
    show ((Project.connect config).run server).ComesTo (Project.ofConfig config) [] server
    unfold Project.connect
    cases hp : Project.ofConfig config with
    | error failure =>
      rw [hp] at hproject
      exact hproject.bind_error
    | ok project =>
      rw [hp] at hproject
      exact hproject.after ((Call.comesTo_log _ _ server).after (Call.comesTo_pure project server))

section Start

variable {setting : Setting} {invocation : Invocation} {server left : Server}

/-- Without a project nothing is shown. -/
theorem shows_start_of_error {failure : Failure}
    (h : project setting invocation.root = .error failure) :
    Shows ((start setting invocation).run server) none [] server := by
  have hconnect := Call.comesTo_attempt (comesTo_connect setting invocation.root server)
  rw [h] at hconnect
  exact .after hconnect (shows_problem _ server)

/-- With a project the command is what is shown. -/
theorem shows_start {project : Project} (h : Program.project setting invocation.root = .ok project)
    {text : Option String} {requests : List Request}
    (hs : Shows ((perform project invocation.command).run server) text requests left) :
    Shows ((start setting invocation).run server) text requests left := by
  have hconnect := Call.comesTo_attempt (comesTo_connect setting invocation.root server)
  rw [h] at hconnect
  exact .after hconnect (.after (Call.comesTo_log _ _ server) hs)

end Start

theorem ofEnvironment_eq_ok_iff {given : Option String} {root : String} {config : Config} :
    Config.ofEnvironment given root = .ok config ↔ ∃ text key id, given = some text ∧
      ApiKey.parse text = .ok key ∧ Identifier.parse root = .ok id ∧
        Config.new id key = config := by
  have hid : ∀ id, Config.readId root = .ok id ↔ Identifier.parse root = .ok id := by
    intro id
    unfold Config.readId
    cases Identifier.parse root <;> simp
  cases given with
  | none => exact iff_of_false (fun h => by cases h) (by simp)
  | some text =>
    simp only [Config.ofEnvironment, bind_eq_ok_iff, Config.readKey_eq_ok_iff, hid,
      ApiKey.parse_eq_ok_iff, Option.some.injEq, exists_eq_left', exists_and_left]
    simp [pure, Except.pure]

theorem ofConfig_eq_ok_iff {config : Config} {project : Project} :
    Project.ofConfig config = .ok project ↔ config.key.fitsHeader = true ∧
      ⟨config.root, ⟨config.key, config.baseUrl.base⟩⟩ = project := by
  unfold Project.ofConfig Client.ofConfig
  cases config.key.fitsHeader with
  | false => exact iff_of_false (fun h => by cases h) (fun h => by cases h.1)
  | true => simp [bind, Except.bind, pure, Except.pure]

theorem config_eq_ok_iff {setting : Setting} {root : String} {configured : Config} :
    config setting root = .ok configured ↔ ∃ text key id url, setting.key = some text ∧
      ApiKey.parse text = .ok key ∧ Identifier.parse root = .ok id ∧
      base? setting.baseUrl = some url ∧
        { Config.new id key with baseUrl := url } = configured := by
  rcases setting with ⟨arguments, given, _ | url⟩
  · simp only [config, bind_eq_ok_iff, ofEnvironment_eq_ok_iff, base?]
    constructor
    · rintro ⟨_, ⟨text, key, id, hgiven, hkey, hid, rfl⟩, h⟩
      exact ⟨text, key, id, _, hgiven, hkey, hid, rfl, Except.ok.inj h⟩
    · rintro ⟨text, key, id, _, hgiven, hkey, hid, hbase, rfl⟩
      obtain rfl := Option.some.inj hbase
      exact ⟨_, ⟨text, key, id, hgiven, hkey, hid, rfl⟩, rfl⟩
  · have hurl : ∀ config : Config, config.withBaseUrl url = .ok configured ↔
        ∃ base, (Url.parse url).toOption = some base ∧
          { config with baseUrl := base } = configured := by
      intro config
      unfold Config.withBaseUrl
      cases Url.parse url <;> simp [Except.toOption]
    simp only [config, bind_eq_ok_iff, ofEnvironment_eq_ok_iff, base?, hurl]
    constructor
    · rintro ⟨_, ⟨text, key, id, hgiven, hkey, hid, rfl⟩, base, hbase, h⟩
      exact ⟨text, key, id, base, hgiven, hkey, hid, hbase, h⟩
    · rintro ⟨text, key, id, base, hgiven, hkey, hid, hbase, h⟩
      exact ⟨_, ⟨text, key, id, hgiven, hkey, hid, rfl⟩, base, hbase, h⟩

/-- There is a project exactly if the key, the root and the base are accepted. -/
theorem accepts_iff {setting : Setting} {invocation : Invocation} {project : Project}
    {operation : Operation} : Accepts setting invocation project operation ↔
      Program.project setting invocation.root = .ok project ∧
        operation? project.root invocation.command = some operation := by
  simp only [Program.project, bind_eq_ok_iff, config_eq_ok_iff, ofConfig_eq_ok_iff]
  constructor
  · rintro ⟨⟨text, hgiven, hkey⟩, hfits, hroot, hbase, hoperation⟩
    obtain ⟨url, hurl, hbase⟩ := Option.map_eq_some_iff.1 hbase
    refine ⟨⟨_, ⟨text, _, _, url, hgiven, hkey, hroot, hurl, rfl⟩, hfits, ?_⟩, hoperation⟩
    exact congrArg (fun base => Project.mk project.root ⟨project.client.key, base⟩) hbase
  · rintro ⟨⟨_, ⟨text, key, id, url, hgiven, hkey, hid, hurl, rfl⟩, hfits, rfl⟩, hoperation⟩
    exact ⟨⟨text, hgiven, hkey⟩, hfits, hid, by rw [hurl]; rfl, hoperation⟩

/-! ### Reports -/

section Run

variable {setting : Setting} {invocation : Invocation}
  (hparse : CommandLine.parse setting.arguments = .ok invocation)

include hparse

theorem isOf_run {project : Project} {operation : Operation}
    (h : Accepts setting invocation project operation) (server : Server) :
    (run setting server).IsOf operation ((operation.call project).run server) := by
  obtain ⟨hproject, hoperation⟩ := accepts_iff.1 h
  have hrun : run setting server =
      report invocation.verbose ((start setting invocation).run server) := by
    unfold run
    rw [hparse]
  obtain ⟨hrequests, hserver, hstdout, hexit⟩ := Report.of_shows
    (shows_start hproject (showsResult_perform project hoperation server)) invocation.verbose
  rw [← hrun] at hrequests hserver hstdout hexit
  have hsome := isSome_shown_iff hoperation ((operation.call project).run server)
  refine ⟨hrequests, hserver, ?_, fun hnot => ?_, fun value ids hv hids => ?_⟩
  · rw [hexit, hstdout, ← hsome]
    refine ⟨And.left, fun h => ⟨h, ?_⟩⟩
    obtain ⟨text, htext⟩ := Option.isSome_iff_exists.1 h
    rw [htext]
    exact shown_ne_empty hoperation htext
  · rw [← hsome] at hnot
    refine ⟨fun h => hnot (hexit.1 h), ?_⟩
    rw [hstdout, Option.not_isSome_iff_eq_none.1 hnot]
    rfl
  · rw [hstdout, hv]
    exact congrArg (Option.getD · "") (text?_of_shownIds hids)

theorem isRefusal_run (h : ¬∃ project operation, Accepts setting invocation project operation)
    (server : Server) : (run setting server).IsRefusal server := by
  have hrun : run setting server =
      report invocation.verbose ((start setting invocation).run server) := by
    unfold run
    rw [hparse]
  have hshows : Shows ((start setting invocation).run server) none [] server := by
    cases hp : Program.project setting invocation.root with
    | error failure => exact shows_start_of_error hp
    | ok project =>
      refine shows_start hp (shows_perform_of_none project ?_ server)
      refine Option.eq_none_iff_forall_ne_some.2 fun operation ho => ?_
      exact h ⟨project, operation, accepts_iff.2 ⟨hp, ho⟩⟩
  obtain ⟨hrequests, hserver, hstdout, hexit⟩ := Report.of_shows hshows invocation.verbose
  rw [← hrun] at hrequests hserver hstdout hexit
  exact ⟨hrequests, hserver, by simp [hexit], hstdout⟩

end Run

/-- Every invocation can be asked for. If its setting is accepted, the report is that of one
operation: its requests are made, the exit and the standard output tell whether it succeeds, and the
identifiers of its result are written one on a line. If not, nothing is asked and nothing is
written. -/
theorem run_reports :
    (∀ invocation, ∃ arguments, CommandLine.parse arguments = .ok invocation) ∧
    ∀ (setting : Setting) (invocation : Invocation),
      CommandLine.parse setting.arguments = .ok invocation → ∀ server : Server,
        (∀ project operation, Accepts setting invocation project operation →
          (run setting server).IsOf operation ((operation.call project).run server)) ∧
        ((¬∃ project operation, Accepts setting invocation project operation) →
          (run setting server).IsRefusal server) :=
  ⟨fun invocation => ⟨_, CommandLine.parse_write invocation⟩, fun _ _ hparse server =>
    ⟨fun _ _ haccepts => isOf_run hparse haccepts server,
      fun hrefused => isRefusal_run hparse hrefused server⟩⟩

/-- A search for every page below the root. -/
def sampleInvocation (root : String) : Invocation :=
  ⟨root, false, .findPage "A" none true⟩

def sampleSetting (root : String) : Setting :=
  ⟨(sampleInvocation root).write, some "secret_0123456789abcdef", some "http://a/v1"⟩

theorem parse_sampleSetting (root : String) :
    CommandLine.parse (sampleSetting root).arguments = .ok (sampleInvocation root) :=
  CommandLine.parse_write _

/-- The setting of an identifier is accepted, and the page is found in the second part. -/
theorem exists_accepts_sample : ∃ project requests,
    Accepts (sampleSetting "00000000000040008000000000000000")
      (sampleInvocation "00000000000040008000000000000000") project
      (.findAll .page (.ofRandom 0) "A") ∧
    ((project.findAll .page (.ofRandom 0) "A").run (.scripted Walk.sampleReplies)).ComesTo
      (.ok [.ofRandom 3]) requests (.scripted []) ∧ requests.length = 2 := by
  have hfound : Project.pagesNamed "A" (Walk.sampleParts.flatMap Listing.results) =
      [.ofRandom 3] := by decide +kernel
  have hdelivers : Project.DeliversChildren ⟨.ofRandom 0, .sample "http://a/v1"⟩ (.ofRandom 0)
      Walk.sampleReplies Walk.sampleParts := Walk.delivers_sample
  have hsearch := Project.comesTo_findAll hdelivers
    (Project.comesTo_matchesAmong_page "A" (.scripted []) _)
  simp only [hfound, List.append_nil] at hsearch
  have hlength := congrArg List.length (Walk.map_some_requestsFor hdelivers.sent)
  rw [List.length_map, List.length_map] at hlength
  refine ⟨_, _, ?_, hsearch, hlength⟩
  exact
    { key_eq := ⟨_, rfl, ApiKey.parse_eq_ok_iff.2 rfl⟩
      key_fits := by decide +kernel
      root_eq := by decide +kernel
      base_eq := by decide +kernel
      operation_eq := rfl }

/-- The page that is found is written on its line, and for a root that is no identifier nothing is
asked. -/
theorem run_reports_sample :
    let found := run (sampleSetting "00000000000040008000000000000000")
      (.scripted Walk.sampleReplies)
    let refused := run (sampleSetting "A") (.scripted Walk.sampleReplies)
    (found.exit = 0 ∧ found.stdout = (Identifier.ofRandom 3).text ++ "\n" ∧
      found.requests.length = 2) ∧
    refused.exit ≠ 0 ∧ refused.stdout = "" ∧ refused.requests = [] := by
  obtain ⟨project, requests, haccepts, hrun, hlength⟩ := exists_accepts_sample
  -- what is known of the search is enough, and keeps it from being run
  generalize Server.scripted Walk.sampleReplies = server at hrun ⊢
  refine ⟨?_, ?_⟩
  · have hreport := (run_reports.2 _ _ (parse_sampleSetting _) server).1 _ _ haccepts
    refine ⟨(hreport.succeeds_iff.2 ⟨_, hrun.outcome_eq, trivial⟩).1, ?_, ?_⟩
    · simpa using hreport.shows_ids _ _ hrun.outcome_eq rfl
    · rw [← hlength, ← hrun.requests_eq]
      exact congrArg List.length hreport.requests_eq
  · have hrefused : ¬∃ project operation,
        Accepts (sampleSetting "A") (sampleInvocation "A") project operation := by
      rintro ⟨project, operation, haccepts⟩
      have hnone : (Identifier.parse "A").toOption = none := by decide +kernel
      have hroot : Identifier.parse "A" = .ok project.root := haccepts.root_eq
      rw [hroot] at hnone
      cases hnone
    have hreport := (run_reports.2 _ _ (parse_sampleSetting "A") server).2 hrefused
    exact ⟨hreport.exit_ne, hreport.stdout_eq, hreport.requests_eq⟩

end Program

end NotionProject
