import Mathlib.Data.List.TakeWhile
import NotionProject.CommandLine.Parser

/-!
# Arguments

Every invocation can be asked for: `Invocation.write` writes it as arguments, and reading them gives
it back (`parse_write`). The options come first, those with a value attached to it by an equals sign
(`meetAny_attached`, `meetAny_flag`); the argument of the command comes after the end of the
options, so that it may be any text (`readLevel_argument`).
-/

namespace NotionProject

namespace CommandLine

/-! ## Writing -/

/-- An option with its value. -/
def OptionSpec.withValue (spec : OptionSpec) (value : String) : String :=
  "--" ++ spec.name ++ "=" ++ value

/-- An option that is set. -/
def OptionSpec.mark (spec : OptionSpec) : String :=
  "--" ++ spec.name

/-- The options of a search or of a creation. -/
def writeOptions (parent : Option String) (all : Bool) : List String :=
  (parent.map (parentOption "").withValue).toList ++ if all then [(allOption "").mark] else []

/-- The arguments of a command. -/
def Command.write : Command → List String
  | .validate => [validateCommand.name]
  | .findPage title parent all =>
    findPageCommand.name :: (writeOptions parent all ++ ["--", title])
  | .findDatabase title parent all =>
    findDatabaseCommand.name :: (writeOptions parent all ++ ["--", title])
  | .createPage title parent =>
    createPageCommand.name :: (writeOptions parent false ++ ["--", title])
  | .query database archived =>
    queryCommand.name :: ((if archived then [archivedOption.mark] else []) ++ ["--", database])

/-- The arguments of an invocation. -/
def Invocation.write (invocation : Invocation) : List String :=
  rootOption.withValue invocation.root ::
    ((if invocation.verbose then [verboseOption.mark] else []) ++ invocation.command.write)

/-! ## One argument -/

section Meet

variable {level : LevelSpec} {progress : Progress}

/-- What begins with two hyphens and goes on is the name of an option. -/
theorem meetAny_long {text : String} {rest : List Char} (h : text.toList = '-' :: '-' :: rest)
    (hrest : rest ≠ []) : meetAny level progress text = meetLong level progress rest := by
  unfold meetAny
  rw [h]
  obtain ⟨c, cs, rfl⟩ := List.exists_cons_of_ne_nil hrest
  rfl

section Option

variable (spec : OptionSpec)
  (hspec : level.options.find? (fun other => other.name == spec.name) = some spec)
  (hplain : '=' ∉ spec.name.toList) (hpending : progress.pending = none)
  (hfree : (progress.filled.any fun entry => entry.1 == .option spec) = false)

include hspec hplain hpending hfree

/-- An option with its value after an equals sign. -/
theorem meetAny_attached {placeholder : String} (hrole : spec.role = .value placeholder)
    (value : String) : meetAny level progress (spec.withValue value) =
      .ok { progress with
        filled := progress.filled ++ [(.option spec, value)], waiting := false } := by
  have hall : ∀ c ∈ spec.name.toList, (c != '=') = true := by
    intro c hc
    rw [bne_iff_ne]
    rintro rfl
    exact hplain hc
  have htext : (spec.withValue value).toList =
      '-' :: '-' :: (spec.name.toList ++ '=' :: value.toList) := by
    simp [OptionSpec.withValue, String.toList_append]
  rw [meetAny_long htext (by simp), meetLong, List.takeWhile_append_of_pos hall,
    List.dropWhile_append_of_pos hall]
  simp [hspec, meetOption, hrole, Progress.settle, hpending, Progress.fill, hfree, bind,
    Except.bind, pure, Except.pure]

/-- A flag that is set. -/
theorem meetAny_flag (hname : spec.name.toList ≠ []) (hrole : spec.role = .flag) :
    meetAny level progress spec.mark =
      .ok { progress with
        filled := progress.filled ++ [(.option spec, "")], waiting := false } := by
  have hall : ∀ c ∈ spec.name.toList, (c != '=') = true := by
    intro c hc
    rw [bne_iff_ne]
    rintro rfl
    exact hplain hc
  have htext : spec.mark.toList = '-' :: '-' :: spec.name.toList := by
    simp [OptionSpec.mark, String.toList_append]
  rw [meetAny_long htext hname, meetLong, List.takeWhile_eq_self_iff.2 hall,
    List.dropWhile_eq_nil_iff.2 hall]
  simp [hspec, meetOption, hrole, Progress.settle, hpending, Progress.fill, hfree, bind,
    Except.bind, pure, Except.pure]

end Option

end Meet

/-! ## A level -/

section Level

variable {level : LevelSpec} {progress next : Progress} {text : String} {rest : List String}

/-- An argument that begins with a hyphen names no command. -/
theorem readLevel_hyphen (h : text.toList.head? = some '-') (hends : progress.optionsEnded = false)
    (hmeet : meetAny level progress text = .ok next) :
    readLevel level progress (text :: rest) = readLevel level next rest := by
  have hne : ∀ name : String, name.toList.head? ≠ some '-' → name ≠ text := by
    rintro name hname rfl
    exact hname h
  have hhelp : asksHelp level progress text = false := by
    have hname : text ≠ helpName := (hne helpName (by decide)).symm
    simp [asksHelp, hname]
  have hcommand : command? level progress text = none := by
    have hnames : ∀ command ∈ commands, command.name.toList.head? ≠ some '-' := by decide
    unfold command?
    split
    · exact List.find?_eq_none.2 fun command hm => by simpa using hne _ (hnames command hm)
    · rfl
  rw [readLevel]
  simp only [hhelp, hcommand, hends, hmeet]
  rfl

/-- After the end of the options everything is an argument. -/
theorem readLevel_argument (h : level.hasCommands = false) (hends : progress.optionsEnded = true)
    (hmeet : meetArgument level progress text = .ok next) :
    readLevel level progress (text :: rest) = readLevel level next rest := by
  rw [readLevel]
  simp only [asksHelp, command?, h, hends, hmeet]
  rfl

theorem readLevel_command {command : CommandSpec} (h : asksHelp level progress text = false)
    (hcommand : command? level progress text = some command) :
    readLevel level progress (text :: rest) = .ok (progress, .command command rest) := by
  rw [readLevel]
  simp only [h, hcommand]
  rfl

end Level

/-! ## Commands -/

theorem OptionSpec.head?_withValue (spec : OptionSpec) (value : String) :
    (spec.withValue value).toList.head? = some '-' := by
  simp [withValue, String.toList_append]

theorem OptionSpec.head?_mark (spec : OptionSpec) : spec.mark.toList.head? = some '-' := by
  simp [mark, String.toList_append]

/-- What is read when the options are read and the argument is to come. -/
def Progress.ofOptions (filled : List (Slot × String)) : Progress :=
  ⟨filled, none, false, false⟩

/-- The values of the options of a search or of a creation. -/
def optionValues (parentHelp allHelp : String) (parent : Option String) (all : Bool) :
    List (Slot × String) :=
  (parent.map fun parent => (Slot.option (parentOption parentHelp), parent)).toList ++
    if all then [(.option (allOption allHelp), "")] else []

theorem readLevel_writeOptions {level : LevelSpec} {parentHelp : String} (allHelp : String)
    (hparent : level.options.find? (fun spec => spec.name == "parent") =
      some (parentOption parentHelp)) (parent : Option String) {all : Bool}
    (hall : all = true → level.options.find? (fun spec => spec.name == "all") =
      some (allOption allHelp)) (rest : List String) :
    readLevel level .start (writeOptions parent all ++ rest) =
      readLevel level (.ofOptions (optionValues parentHelp allHelp parent all)) rest := by
  have hplain : '=' ∉ "parent".toList ∧ '=' ∉ "all".toList ∧ "all".toList ≠ [] := by decide
  have hmark : ∀ values : List (Slot × String),
      (values.any fun entry => entry.1 == .option (allOption allHelp)) = false →
      readLevel level (.ofOptions values) ((if all then [(allOption "").mark] else []) ++ rest) =
        readLevel level
          (.ofOptions (values ++ if all then [(.option (allOption allHelp), "")] else []))
          rest := by
    intro values hfree
    cases all with
    | false => simp
    | true =>
      exact readLevel_hyphen (OptionSpec.head?_mark _) rfl
        (meetAny_flag (allOption allHelp) (hall rfl) hplain.2.1 rfl hfree hplain.2.2 rfl)
  cases parent with
  | none => exact hmark [] rfl
  | some parent =>
    refine Eq.trans ?_ (hmark [(.option (parentOption parentHelp), parent)]
      (by simp [parentOption, allOption]))
    exact readLevel_hyphen (OptionSpec.head?_withValue _ _) rfl
      (meetAny_attached (parentOption parentHelp) hparent hplain.1 rfl rfl rfl parent)

/-- After its options a command has its argument. -/
theorem readCommand_eq {spec : CommandSpec} (hargument : spec.argument.isSome = true)
    {options : List String} {values : List (Slot × String)}
    (hfree : (values.any fun entry => entry.1 == .argument) = false)
    (hoptions : ∀ rest, readLevel (commandLevel spec) .start (options ++ rest) =
      readLevel (commandLevel spec) (.ofOptions values) rest) (title : String) :
    readCommand spec (options ++ ["--", title]) =
      .ok (commandOf spec ⟨values ++ [(.argument, title)], none, false, true⟩) := by
  have hend : readLevel (commandLevel spec) (.ofOptions values) ["--", title] =
      readLevel (commandLevel spec) ⟨values, none, false, true⟩ [title] :=
    readLevel_hyphen rfl rfl rfl
  have hmeet : meetArgument (commandLevel spec) ⟨values, none, false, true⟩ title =
      .ok ⟨values, some (.argument, some title), false, true⟩ := by
    simp [meetArgument, commandLevel, hargument, Progress.hasArgument, hfree, Progress.settle, bind,
      Except.bind, pure, Except.pure]
  have hlookup : (values ++ [(Slot.argument, title)]).lookup .argument = some title := by
    have hnone : values.lookup .argument = none :=
      List.lookup_eq_none_iff.2 fun entry hm => bne_iff_ne.2 fun heq =>
        List.any_eq_false.1 hfree entry hm (beq_iff_eq.2 heq.symm)
    rw [List.lookup_append, hnone]
    rfl
  unfold readCommand
  rw [hoptions, hend, readLevel_argument rfl rfl hmeet, readLevel]
  simp [Progress.settle, Progress.fill, Progress.argument?, hlookup, bind, Except.bind, pure,
    Except.pure]

theorem readCommand_write (command : Command) : ∃ spec arguments,
    command.write = spec.name :: arguments ∧ command? programLevel .start spec.name = some spec ∧
      asksHelp programLevel .start spec.name = false ∧
      readCommand spec arguments = .ok command := by
  cases command with
  | validate => exact ⟨validateCommand, [], rfl, rfl, rfl, rfl⟩
  | findPage title parent all =>
    refine ⟨findPageCommand, _, rfl, rfl, rfl, ?_⟩
    rw [readCommand_eq rfl ?_ (readLevel_writeOptions _ rfl parent fun _ => rfl)]
    · cases parent <;> cases all <;> rfl
    · cases parent <;> cases all <;> rfl
  | findDatabase title parent all =>
    refine ⟨findDatabaseCommand, _, rfl, rfl, rfl, ?_⟩
    rw [readCommand_eq rfl ?_ (readLevel_writeOptions _ rfl parent fun _ => rfl)]
    · cases parent <;> cases all <;> rfl
    · cases parent <;> cases all <;> rfl
  | createPage title parent =>
    refine ⟨createPageCommand, _, rfl, rfl, rfl, ?_⟩
    rw [readCommand_eq rfl ?_ (readLevel_writeOptions "" rfl parent (by simp))]
    · cases parent <;> rfl
    · cases parent <;> rfl
  | query database archived =>
    refine ⟨queryCommand, _, rfl, rfl, rfl, ?_⟩
    have hoptions : ∀ rest, readLevel (commandLevel queryCommand) .start
        ((if archived then [archivedOption.mark] else []) ++ rest) =
          readLevel (commandLevel queryCommand)
            (.ofOptions (if archived then [(.option archivedOption, "")] else [])) rest := by
      intro rest
      cases archived with
      | false => rfl
      | true =>
        exact readLevel_hyphen (OptionSpec.head?_mark _) rfl
          (meetAny_flag archivedOption rfl (by decide) rfl rfl (by decide) rfl)
    rw [readCommand_eq rfl ?_ hoptions]
    · cases archived <;> rfl
    · cases archived <;> rfl

/-! ## The whole command line -/

/-- Every invocation can be asked for. -/
theorem parse_write (invocation : Invocation) : parse invocation.write = .ok invocation := by
  rcases invocation with ⟨root, verbose, command⟩
  obtain ⟨spec, arguments, hwrite, hcommand, hhelp, hread⟩ := readCommand_write command
  have hroot : ∀ rest, readLevel programLevel .start (rootOption.withValue root :: rest) =
      readLevel programLevel (.ofOptions [(.option rootOption, root)]) rest := fun rest =>
    readLevel_hyphen (OptionSpec.head?_withValue _ _) rfl
      (meetAny_attached rootOption rfl (by decide) rfl rfl rfl root)
  have hverbose : ∀ rest, readLevel programLevel (.ofOptions [(.option rootOption, root)])
      ((if verbose then [verboseOption.mark] else []) ++ rest) =
        readLevel programLevel (.ofOptions ((.option rootOption, root) ::
          if verbose then [(.option verboseOption, "")] else [])) rest := by
    intro rest
    cases verbose with
    | false => rfl
    | true =>
      exact readLevel_hyphen (OptionSpec.head?_mark _) rfl
        (meetAny_flag verboseOption rfl (by decide) rfl rfl (by decide) rfl)
  have hlevel : readLevel programLevel .start (Invocation.write ⟨root, verbose, command⟩) =
      .ok (.ofOptions ((.option rootOption, root) ::
        if verbose then [(.option verboseOption, "")] else []), .command spec arguments) := by
    rw [Invocation.write, hroot, hverbose, hwrite]
    exact readLevel_command hhelp hcommand
  unfold parse
  rw [hlevel]
  simp only [hread, bind, Except.bind]
  cases verbose <;> rfl

end CommandLine

end NotionProject
