import Federation.Cli.Parse
import Federation.Configuration.Loader
import Federation.Configuration.Scaffold
import Federation.Report
import Federation.Text.Alphanumeric

/-!
# The federation-composer command line

Three commands:

* `compose --config PATH [--schema-output PATH] [--metadata-output PATH] [--fail-on-errors]`
  composes the configured services, reports each validation error on the error stream, writes
  the schema (or prints it) and the metadata report, and fails when errors were found and either
  the option or the configuration asks for it;
* `validate --config PATH` composes and fails when errors were found, else counts the types;
* `generate-config [--output PATH]` writes a configuration template where nothing exists.

A bare invocation prints the help. Mistakes in the command line print the usage, a hint and the
error, with status 2; failures of a command print their message, with status 1.
-/

namespace Federation.Cli

open Federation.Workspace Federation.Configuration

/-- The version the program reports. -/
def programVersion : String := "0.1.0"

/-- The help option every command has. -/
def helpOption : OptionSpec :=
  { dest := "help", flags := ["-h", "--help"], arity := .flag, help := "Show this message and exit.",
    eager := true }

/-- The configuration option of compose and validate. -/
def configOption : OptionSpec :=
  { dest := "config_path", flags := ["--config"], arity := .value "PATH",
    help := "Path to YAML/JSON composition configuration file", required := true }

/-- The command that writes a configuration template. -/
def generateConfigCommand : CommandSpec :=
  { name := "generate-config",
    help := "Generate a placeholder YAML composition configuration with guidance comments.",
    options := [
      { dest := "output_path", flags := ["--output"], arity := .value "PATH",
        help := "Path to the YAML composition configuration template to write",
        shownDefault := some defaultConfigFilename },
      helpOption] }

/-- The command that composes and writes the results. -/
def composeCommand : CommandSpec :=
  { name := "compose", help := "Compose the configured services and write the composed schema.",
    options := [
      configOption,
      { dest := "schema_output", flags := ["--schema-output"], arity := .value "PATH",
        help := "Path for the composed SDL; printed to stdout when omitted" },
      { dest := "metadata_output", flags := ["--metadata-output"], arity := .value "PATH",
        help := "Path for the ownership metadata JSON report" },
      { dest := "fail_on_errors", flags := ["--fail-on-errors"], arity := .flag,
        help := "Exit with status 1 when composition reports structural errors." },
      helpOption] }

/-- The command that composes and reports errors only. -/
def validateCommand : CommandSpec :=
  { name := "validate", help := "Compose the configured services and report structural errors only.",
    options := [configOption, helpOption] }

/-- The program (`cli`). -/
def program : ProgramSpec :=
  { name := "federation-composer", help := "Compose service GraphQL schemas into one federated schema.",
    options := [
      { dest := "version", flags := ["--version"], arity := .flag, help := "Show the version and exit.",
        eager := true },
      { dest := "verbose", flags := ["-v", "--verbose"], arity := .flag, help := "Log composition details." },
      helpOption],
    commands := [generateConfigCommand, composeCommand, validateCommand] }

/-- What a run printed on each stream. -/
structure Output where
  stdout : String := ""
  stderr : String := ""
  deriving Repr, Inhabited

/-- The end of a run: its exit status and what it printed, or a failure outside the program's
own, with its kind and message, after what was printed before it. -/
inductive RunResult where
  | exited (code : Nat) (output : Output)
  | crashed (kind message : String) (output : Output)
  deriving Repr, Inhabited

/-- How a command stops before its end. -/
inductive Stop where
  /-- A failure of the command, with its message. -/
  | failed (message : String)
  /-- A failure outside the program's own. -/
  | crashed (kind message : String)
  deriving Repr, Inhabited

/-- Running a command: it prints, may stop, and uses a file system. -/
abbrev RunM (m : Type → Type) := ExceptT Stop (StateT Output m)

variable {m : Type → Type} [Monad m] [FileSystem m]

/-- Prints a line on the output stream. -/
def echo (line : String) : RunM m Unit := modify fun o => { o with stdout := o.stdout ++ line ++ "\n" }

/-- Prints a line on the error stream. -/
def echoError (line : String) : RunM m Unit := modify fun o => { o with stderr := o.stderr ++ line ++ "\n" }

/-- Runs a file system step. -/
def onFiles {α : Type} (x : m α) : RunM m α := ExceptT.lift (StateT.lift x)

/-- The height of the call stack at which a command's steps run: above the operation come the
entry point, the command group, its dispatch to the command, the command, its invocation, the
command's body and the step. -/
def commandStepHeight : Nat := operationHeight + 7

/-- Loads the configuration; its errors fail the command (`_load`). -/
def loadStep (configPath : String) : RunM m CompositionConfig := do
  match ← onFiles (loadConfiguration configPath (commandStepHeight + 1)).run with
  | .ok c => return c
  | .error (.crash kind message) => throw (.crashed kind message)
  | .error e => throw (.failed e.message)

/-- Parses the configured services and composes them; their errors fail the command. Each
service is parsed one frame above the composition, which runs above the step (`_compose`). -/
def composeStep (c : CompositionConfig) : RunM m Composition := do
  match c.services.mapM fun s => Service.parse (some s.name) s.sdlText (commandStepHeight + 2) with
  | .error (.fault f) => throw (.crashed f.kind f.message)
  | .error e => throw (.failed e.message)
  | .ok services =>
    match compose services (commandStepHeight + 1) with
    | .ok result => return result
    | .error (.unbuildable f) => throw (.failed f.message)
    | .error (.invalidArgument message) => throw (.crashed "GraphQLError" message)
    | .error (.fault f) => throw (.crashed f.kind f.message)

/-- Prints each validation error of a composition on the error stream (`_echo_errors`). -/
def echoErrors (c : Composition) : RunM m Unit :=
  c.errors.forM fun e => echoError ("error: " ++ e)

/-- The failure of a composition with errors (`CompositionFailed`). -/
def compositionFailed (c : Composition) : Stop :=
  .failed ("Composition reported " ++ toString c.errors.length ++ " error(s).")

/-- The schema's SDL, rendered as a step; a failure to print stops the command. -/
def renderStep (c : Composition) : RunM m String :=
  match renderSchema c commandStepHeight with
  | .ok text => pure text
  | .error (.unprintable kind message) => throw (.crashed kind message)
  | .error (.unwritable e) => throw (.failed e.message)
  | .error .nulPath => throw (.crashed nulPathKind nulPathMessage)

/-- A path given on the command line, unless empty. -/
def givenPath : Option String → Option Path
  | some s => if s.isEmpty then none else some (Path.ofString s)
  | none => none

/-- The compose command (`compose`). -/
def runCompose (configPath : String) (schemaOutput metadataOutput : Option String) (failOnErrors : Bool) :
    RunM m Unit := do
  let config ← loadStep configPath
  let result ← composeStep config
  echoErrors result
  let schemaPath := (givenPath schemaOutput).orElse fun _ => config.output.schemaPath
  let metadataPath := (givenPath metadataOutput).orElse fun _ => config.output.metadataPath
  let written ← match ← onFiles (writeReport result schemaPath metadataPath commandStepHeight) with
    | .ok w => pure w
    | .error (.unprintable kind message) => throw (.crashed kind message)
    | .error (.unwritable e) => throw (.failed ("Failed to write composition output: " ++ e.message))
    | .error .nulPath => throw (.crashed nulPathKind nulPathMessage)
  match written.schemaPath with
  | none => echo (← renderStep result)
  | some p => echo p.toText
  if let some p := written.metadataPath then echo p.toText
  if result.hasErrors && (failOnErrors || config.output.failOnErrors) then throw (compositionFailed result)

/-- The validate command (`validate`). -/
def runValidate (configPath : String) : RunM m Unit := do
  let result ← composeStep (← loadStep configPath)
  echoErrors result
  if result.hasErrors then throw (compositionFailed result)
  echo (toString result.metadata.types.length ++ " types composed without errors.")

/-- The generate-config command (`generate_config`). -/
def runGenerateConfig (outputPath : String) : RunM m Unit := do
  match ← onFiles (writePlaceholderConfiguration outputPath) with
  | .ok p => echo p.toText
  | .error .nulPath => throw (.crashed nulPathKind nulPathMessage)
  | .error e => throw (.failed e.message)

/-- Runs a command with the options read for it. -/
def runCommand (c : CommandSpec) (p : Parsed) : RunM m Unit :=
  if c.name == composeCommand.name then
    runCompose ((p.text? "config_path").getD "") (p.text? "schema_output") (p.text? "metadata_output")
      (p.switched "fail_on_errors")
  else if c.name == validateCommand.name then runValidate ((p.text? "config_path").getD "")
  else runGenerateConfig ((p.text? "output_path").getD defaultConfigFilename)

/-- Whether an unknown command name starts like an option: with a character that is not a
letter or digit. -/
def startsLikeOption (name : String) : Bool :=
  match name.toList with
  | c :: _ => !Text.isAlphanumeric c
  | [] => false

/-- A mistake in the command line: the usage of the command it was read for, a hint, and the
error. -/
def usageFailure (usage commandPath message : String) : RunResult :=
  .exited 2 { stderr := usage ++ "\nTry '" ++ commandPath ++ " -h' for help.\n\nError: " ++ message ++ "\n" }

/-- A mistake in the options: an unknown option with the usage of the command it was read for
and a hint, a misused one alone. -/
def optionFailure (usage commandPath : String) : OptionError → RunResult
  | .unknown message => usageFailure usage commandPath message
  | .misused message => .exited 2 { stderr := "Error: " ++ message ++ "\n" }

/-- A help page as printed. -/
def printedPage (page : String) : RunResult :=
  .exited 0 { stdout := (page.dropEndWhile (· == '\n')).copy ++ "\n" }

/-- Runs a command to its end. -/
def finish (c : CommandSpec) (p : Parsed) : m RunResult := do
  let (r, out) ← ((runCommand c p).run : StateT Output m (Except Stop Unit)).run {}
  match r with
  | .ok () => return .exited 0 out
  | .error (.failed message) => return .exited 1 { out with stderr := out.stderr ++ message ++ "\n" }
  | .error (.crashed kind message) => return .crashed kind message out

/-- Runs the program on its arguments (`main`). -/
def runProgram (args : List String) : m RunResult := do
  if args.isEmpty then return printedPage program.helpPage
  match readOptions program.options false args with
  | .error e => return optionFailure program.usage program.name e
  | .ok parsed =>
    match firstEager program.options parsed with
    | some "version" => return .exited 0 { stdout := program.name ++ ", version " ++ programVersion ++ "\n" }
    | some _ => return printedPage program.helpPage
    | none =>
      match parsed.leftover with
      | [] => return usageFailure program.usage program.name "Missing command."
      | name :: rest =>
        match program.commands.find? (·.name == name) with
        | none =>
          if startsLikeOption name then return printedPage program.helpPage
          else return usageFailure program.usage program.name ("No such command " ++ Text.quoteText name ++ ".")
        | some c =>
          let path := program.name ++ " " ++ c.name
          match readOptions c.options true rest with
          | .error e => return optionFailure (c.usage path) path e
          | .ok p =>
            if (firstEager c.options p).isSome then return printedPage (c.helpPage path)
            match firstMissing c.options p with
            | some o => return usageFailure (c.usage path) path (missingOption o)
            | none =>
              if !p.leftover.isEmpty then return usageFailure (c.usage path) path (unexpectedArguments p.leftover)
              finish c p

end Federation.Cli
