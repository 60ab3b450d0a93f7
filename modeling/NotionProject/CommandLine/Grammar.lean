/-!
# The grammar of the command line

What the program is told: options, one command, and the options and the argument of the
command. The grammar is data, so that reading arguments (`CommandLine.parse`) and describing
them (`CommandLine.help`) go by the same description.
-/

namespace NotionProject

namespace CommandLine

/-- What an option does: it is set, it takes a value, or it asks for the help or the
version. -/
inductive Role where
  | flag
  | value (name : String)
  | help
  | version
deriving DecidableEq

/-- An option with its long name, its letter and its description. -/
structure OptionSpec where
  name : String
  letter : Option Char
  role : Role
  help : String
deriving DecidableEq

/-- The option as it appears in messages. -/
def OptionSpec.shown (option : OptionSpec) : String :=
  match option.role with
  | .value name => "--" ++ option.name ++ " <" ++ name ++ ">"
  | _ => "--" ++ option.name

/-- A command with its description, the name of its argument, and its options. -/
structure CommandSpec where
  name : String
  about : String
  argument : Option String
  options : List OptionSpec
deriving DecidableEq

/-- The name of the program. -/
def programName : String := "notion-backend"

/-- The version of the program. -/
def programVersion : String := "0.1.0"

/-- What the program does. -/
def programAbout : String := "Inspect and manage a Notion-backed project"

/-- The option that names the root of the project. It is required. -/
def rootOption : OptionSpec :=
  ⟨"root", none, .value "ROOT", "Project root page URL or ID"⟩

/-- The option that asks for a complete log. -/
def verboseOption : OptionSpec :=
  ⟨"verbose", some 'v', .flag, "Enable verbose logging (debug level)"⟩

/-- The option that asks for help. -/
def helpOption : OptionSpec :=
  ⟨"help", some 'h', .help, "Print help"⟩

/-- The option that asks for the version. -/
def versionOption : OptionSpec :=
  ⟨"version", some 'V', .version, "Print version"⟩

/-- The options before the command. -/
def programOptions : List OptionSpec :=
  [rootOption, verboseOption, helpOption, versionOption]

/-- The option that names the parent page of what is looked for or created. -/
def parentOption (help : String) : OptionSpec :=
  ⟨"parent", none, .value "PARENT", help⟩

/-- The option that asks for every match. -/
def allOption (help : String) : OptionSpec :=
  ⟨"all", none, .flag, help⟩

/-- The option that asks for archived records. -/
def archivedOption : OptionSpec :=
  ⟨"archived", none, .flag, "List archived records instead of live ones"⟩

/-- The command that checks the structure of a project. -/
def validateCommand : CommandSpec :=
  ⟨"validate", "Check that the root has Datasets, Experiments and Comparisons pages", none,
    [helpOption]⟩

/-- The command that finds a page. -/
def findPageCommand : CommandSpec :=
  ⟨"find-page", "Resolve a child page title to its ID", some "TITLE",
    [parentOption "Parent page (defaults to the root)",
      allOption "Print every match instead of requiring exactly one", helpOption]⟩

/-- The command that finds a database. -/
def findDatabaseCommand : CommandSpec :=
  ⟨"find-database", "Resolve a child database title (case-insensitive) to its ID", some "TITLE",
    [parentOption "", allOption "", helpOption]⟩

/-- The command that creates a page. -/
def createPageCommand : CommandSpec :=
  ⟨"create-page", "Create a child page and print its ID", some "TITLE",
    [parentOption "", helpOption]⟩

/-- The command that lists the records of a database. -/
def queryCommand : CommandSpec :=
  ⟨"query", "Print every record of a database as JSON", some "DATABASE",
    [archivedOption, helpOption]⟩

/-- The commands that do something. -/
def commands : List CommandSpec :=
  [validateCommand, findPageCommand, findDatabaseCommand, createPageCommand, queryCommand]

/-- The name of the command that describes the others. -/
def helpName : String := "help"

/-- What the command does that describes the others. -/
def helpAbout : String := "Print this message or the help of the given subcommand(s)"

end CommandLine

end NotionProject
