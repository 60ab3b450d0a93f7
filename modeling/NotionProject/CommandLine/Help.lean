import NotionProject.CommandLine.Grammar

/-!
# Descriptions of the command line

The help of the program and of each command, in two columns.
-/

namespace NotionProject

namespace CommandLine

/-- Lines in two columns. Of an entry without a description the first column is kept at its
full width. -/
def columns (entries : List (String × String)) : String :=
  let width := (entries.map fun entry => entry.1.length).foldl max 0
  String.join (entries.map fun entry =>
    entry.1 ++ String.ofList (List.replicate (width + 2 - entry.1.length) ' ') ++ entry.2 ++ "\n")

/-- A line of an option. -/
def optionEntry (option : OptionSpec) : String × String :=
  let letter := match option.letter with
    | some c => "  -" ++ c.toString ++ ", "
    | none => "      "
  (letter ++ option.shown, option.help)

/-- A heading with lines in two columns below it. -/
def block (heading : String) (entries : List (String × String)) : String :=
  "\n" ++ heading ++ ":\n" ++ columns entries

/-- The usage of a command, after the name of the program and what it requires. -/
def usage (rest : String) : String :=
  "Usage: " ++ programName ++ " " ++ rest ++ "\n"

/-- The required options as they appear in a usage. -/
def requiredText : String :=
  rootOption.shown

/-- The help of the program. -/
def programHelp : String :=
  programAbout ++ "\n\n" ++ usage ("[OPTIONS] " ++ requiredText ++ " <COMMAND>") ++
    block "Commands"
      ((commands.map fun command => ("  " ++ command.name, command.about)) ++
        [("  " ++ helpName, helpAbout)]) ++
    block "Options" (programOptions.map optionEntry)

/-- The help of a command. -/
def commandHelp (command : CommandSpec) : String :=
  let options := if command.options.any fun o => o.role != .help then " [OPTIONS]" else ""
  let argument := match command.argument with
    | some name => " <" ++ name ++ ">"
    | none => ""
  command.about ++ "\n\n" ++
    usage (requiredText ++ " " ++ command.name ++ options ++ argument) ++
    (match command.argument with
      | some name => block "Arguments" [("  <" ++ name ++ ">", "")]
      | none => "") ++
    block "Options" (command.options.map optionEntry)

/-- The help of the command that describes the others. -/
def helpHelp : String :=
  helpAbout ++ "\n\n" ++ usage (requiredText ++ " " ++ helpName ++ " [COMMAND]...") ++
    block "Arguments" [("  [COMMAND]...", "Print help for the subcommand(s)")]

/-- The version of the program. -/
def versionText : String :=
  programName ++ " " ++ programVersion ++ "\n"

end CommandLine

end NotionProject
