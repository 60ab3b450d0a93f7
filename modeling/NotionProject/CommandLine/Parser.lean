import NotionProject.CommandLine.Help

/-!
# Reading the command line

Arguments are read one after the other. An option with a value waits for it: it takes the
next argument, unless that is an option itself or marks the end of the options. Whether it
has got one is only looked at when the next option or argument comes, or at the end; so an
earlier mistake may be reported after a later one.
-/

namespace NotionProject

namespace CommandLine

/-- A mistake in the arguments. -/
inductive UsageError where
  | missingArguments
  | valueRequired (option : String)
  | repeated (option : String)
  | unexpectedArgument (argument : String)
  | unexpectedValue (value option : String)
  | unknownCommand (name : String)
  | missingCommand
  | nothingGiven
deriving DecidableEq

/-- The first line of the message. -/
def UsageError.firstLine : UsageError → String
  | missingArguments => "error: the following required arguments were not provided:"
  | valueRequired option =>
    "error: a value is required for '" ++ option ++ "' but none was supplied"
  | repeated option => "error: the argument '" ++ option ++ "' cannot be used multiple times"
  | unexpectedArgument argument => "error: unexpected argument '" ++ argument ++ "' found"
  | unexpectedValue value option =>
    "error: unexpected value '" ++ value ++ "' for '" ++ option ++ "' found; no more were expected"
  | unknownCommand name => "error: unrecognized subcommand '" ++ name ++ "'"
  | missingCommand =>
    "error: '" ++ programName ++ "' requires a subcommand but one was not provided"
  | nothingGiven => programAbout

/-- Why the program does not run: the help or the version is asked for, or there is a
mistake. -/
inductive Stop where
  | help (text : String)
  | version
  | mistake (error : UsageError)
deriving DecidableEq

/-- What is given a value: an option or the argument of a command. -/
inductive Slot where
  | option (spec : OptionSpec)
  | argument
deriving DecidableEq

/-- The arguments read so far: the slots that have their values, the one that was met last
with its value, if that has come, whether it waits for it, and whether the options are at
their end. -/
structure Progress where
  filled : List (Slot × String)
  pending : Option (Slot × Option String)
  waiting : Bool
  optionsEnded : Bool

/-- Nothing read. -/
def Progress.start : Progress :=
  ⟨[], none, false, false⟩

/-- What the grammar says at a level: the options and the argument of a command, or the
options before it. -/
structure LevelSpec where
  options : List OptionSpec
  argument : Bool
  hasCommands : Bool
  helpText : String

/-- How a level ends: with the end of the arguments, or at a command. -/
inductive LevelEnd where
  | arguments
  | command (spec : CommandSpec) (rest : List String)

namespace Progress

/-- A value for a slot. An option has one value only. -/
def fill (progress : Progress) (slot : Slot) (value : String) : Except Stop Progress :=
  match slot with
  | .option spec =>
    if progress.filled.any fun entry => entry.1 == slot then
      .error (.mistake (.repeated spec.shown))
    else .ok { progress with filled := progress.filled ++ [(slot, value)] }
  | .argument => .ok { progress with filled := progress.filled ++ [(slot, value)] }

/-- Settles what is pending. -/
def settle (progress : Progress) : Except Stop Progress :=
  match progress.pending with
  | none => .ok progress
  | some (slot, some value) => { progress with pending := none }.fill slot value
  | some (.option spec, none) => .error (.mistake (.valueRequired spec.shown))
  | some (.argument, none) => .ok { progress with pending := none }

/-- Whether the slot of the argument is taken. -/
def hasArgument (progress : Progress) : Bool :=
  progress.filled.any (fun entry => entry.1 == .argument) ||
    (progress.pending.map Prod.fst == some .argument)

/-- The value of an option. -/
def value? (progress : Progress) (spec : OptionSpec) : Option String :=
  progress.filled.lookup (.option spec)

/-- The value of the argument. -/
def argument? (progress : Progress) : Option String :=
  progress.filled.lookup .argument

end Progress

/-! ## Options -/

/-- An option is met, with a value attached to it or not. -/
def meetOption (level : LevelSpec) (progress : Progress) (spec : OptionSpec)
    (attached : Option String) : Except Stop Progress :=
  match spec.role, attached with
  | .value _, some value => do
    let progress ← progress.settle
    let progress ← progress.fill (.option spec) value
    pure { progress with waiting := false }
  | .value _, none => do
    let progress ← progress.settle
    pure { progress with pending := some (.option spec, none), waiting := true }
  | _, some value => .error (.mistake (.unexpectedValue value spec.shown))
  | .flag, none => do
    let progress ← progress.settle
    let progress ← progress.fill (.option spec) ""
    pure { progress with waiting := false }
  | .help, none => do
    let _ ← progress.settle
    .error (.help level.helpText)
  | .version, none => do
    let _ ← progress.settle
    .error .version

/-- An argument that begins with two hyphens: a name, and a value after an equals sign. -/
def meetLong (level : LevelSpec) (progress : Progress) (text : List Char) :
    Except Stop Progress :=
  let name := String.ofList (text.takeWhile (· != '='))
  let attached := match text.dropWhile (· != '=') with
    | [] => none
    | _ :: value => some (String.ofList value)
  match level.options.find? fun spec => spec.name == name with
  | some spec => meetOption level progress spec attached
  | none => .error (.mistake (.unexpectedArgument ("--" ++ name)))

/-- Letters after one hyphen, each an option. -/
def meetLetters (level : LevelSpec) (progress : Progress) :
    List Char → Except Stop Progress
  | [] => .ok progress
  | c :: rest =>
    match level.options.find? fun spec => spec.letter == some c with
    | some spec => do
      let progress ← meetOption level progress spec none
      meetLetters level progress rest
    | none => .error (.mistake (.unexpectedArgument ("-" ++ c.toString)))

/-! ## Arguments -/

/-- The names of all commands. -/
def commandNames : List String :=
  commands.map CommandSpec.name ++ [helpName]

/-- An argument that is neither an option nor the value of one. -/
def meetArgument (level : LevelSpec) (progress : Progress) (text : String) :
    Except Stop Progress :=
  if level.hasCommands then
    if progress.optionsEnded && commandNames.contains text then
      .error (.mistake (.unexpectedArgument text))
    else .error (.mistake (.unknownCommand text))
  else if level.argument && !progress.hasArgument then do
    let progress ← progress.settle
    pure { progress with pending := some (.argument, some text), waiting := false }
  else .error (.mistake (.unexpectedArgument text))

/-- The value that the pending option waits for. -/
def takeValue (progress : Progress) (text : String) : Progress :=
  { progress with
    pending := progress.pending.map fun entry => (entry.1, some text)
    waiting := false }

/-- One argument before the end of the options. -/
def meetAny (level : LevelSpec) (progress : Progress) (text : String) :
    Except Stop Progress :=
  match text.toList with
  | ['-', '-'] => .ok { progress with optionsEnded := true }
  | '-' :: '-' :: rest => meetLong level progress rest
  | '-' :: c :: rest => meetLetters level progress (c :: rest)
  | _ =>
    if progress.waiting then .ok (takeValue progress text)
    else meetArgument level progress text

/-- The help that a row of names after the help command asks for. -/
def helpOf : List String → Stop
  | [] => .help programHelp
  | name :: rest =>
    let text := if name = helpName then some helpHelp
      else (commands.find? fun command => command.name == name).map commandHelp
    match text, rest with
    | some text, [] => .help text
    | some _, next :: _ => .mistake (.unknownCommand next)
    | none, _ => .mistake (.unknownCommand name)

/-- The command that an argument names, where one may come. -/
def command? (level : LevelSpec) (progress : Progress) (text : String) : Option CommandSpec :=
  if level.hasCommands && !progress.optionsEnded && !progress.waiting then
    commands.find? fun command => command.name == text
  else none

/-- Whether an argument names the help command, where a command may come. -/
def asksHelp (level : LevelSpec) (progress : Progress) (text : String) : Bool :=
  level.hasCommands && !progress.optionsEnded && !progress.waiting && text == helpName

/-- Reads the arguments of a level. -/
def readLevel (level : LevelSpec) (progress : Progress) :
    List String → Except Stop (Progress × LevelEnd)
  | [] => .ok (progress, .arguments)
  | text :: rest =>
    if asksHelp level progress text then .error (helpOf rest)
    else
      match command? level progress text with
      | some command => .ok (progress, .command command rest)
      | none => do
        let progress ←
          if progress.optionsEnded then meetArgument level progress text
          else meetAny level progress text
        readLevel level progress rest

/-! ## The whole command line -/

/-- What the program is told to do. -/
inductive Command where
  | validate
  | findPage (title : String) (parent : Option String) (all : Bool)
  | findDatabase (title : String) (parent : Option String) (all : Bool)
  | createPage (title : String) (parent : Option String)
  | query (database : String) (archived : Bool)
deriving DecidableEq

/-- The command line, read. -/
structure Invocation where
  root : String
  verbose : Bool
  command : Command
deriving DecidableEq

/-- The level before the command. -/
def programLevel : LevelSpec :=
  ⟨programOptions, false, true, programHelp⟩

/-- The level of a command. -/
def commandLevel (command : CommandSpec) : LevelSpec :=
  ⟨command.options, command.argument.isSome, false, commandHelp command⟩

/-- The first value of an option of the given name. -/
def valueOf (progress : Progress) (name : String) : Option String :=
  progress.filled.findSome? fun entry =>
    match entry.1 with
    | .option spec => if spec.name = name then some entry.2 else none
    | .argument => none

/-- The command of a specification with the values that were read. -/
def commandOf (spec : CommandSpec) (progress : Progress) : Command :=
  let argument := progress.argument?.getD ""
  let parent := valueOf progress "parent"
  let all := (valueOf progress "all").isSome
  if spec = findPageCommand then .findPage argument parent all
  else if spec = findDatabaseCommand then .findDatabase argument parent all
  else if spec = createPageCommand then .createPage argument parent
  else if spec = queryCommand then .query argument (valueOf progress "archived").isSome
  else .validate

/-- Reads the arguments of a command. -/
def readCommand (spec : CommandSpec) (arguments : List String) : Except Stop Command := do
  let (progress, _) ← readLevel (commandLevel spec) .start arguments
  let progress ← progress.settle
  if spec.argument.isSome && progress.argument?.isNone then .error (.mistake .missingArguments)
  else pure (commandOf spec progress)

/-- Reads a command line. -/
def parse (arguments : List String) : Except Stop Invocation := do
  let (progress, ending) ← readLevel programLevel .start arguments
  match ending with
  | .arguments =>
    let progress ← progress.settle
    if progress.filled.isEmpty then .error (.mistake .nothingGiven)
    else .error (.mistake .missingCommand)
  | .command spec rest =>
    let command ← readCommand spec rest
    let progress ← progress.settle
    match progress.value? rootOption with
    | none => .error (.mistake .missingArguments)
    | some root => pure ⟨root, (progress.value? verboseOption).isSome, command⟩

end CommandLine

end NotionProject
