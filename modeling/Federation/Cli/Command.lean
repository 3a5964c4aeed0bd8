import Federation.Cli.Help

/-!
# Commands and options

A command line has a program with options and commands, each command with its own options. An
option has flags (`-h`, `--help`), is a switch or takes a value (shown by a metavariable such as
`PATH`), and may be required, have a default, or be eager: eager options (help, version) act
before any other.

The help of a command: its usage line, its help text, its options, and for the program its
commands with their short help.
-/

namespace Federation.Cli

/-- Whether an option is a switch or takes a value, named by a metavariable. -/
inductive OptionArity where
  | flag
  | value (metavar : String)
  deriving Repr, Inhabited, BEq

/-- An option of a command. -/
structure OptionSpec where
  /-- The name its value is kept under. -/
  dest : String
  flags : List String
  arity : OptionArity
  help : String
  required : Bool := false
  eager : Bool := false
  /-- The default shown in help, if any. -/
  shownDefault : Option String := none
  deriving Repr, Inhabited

/-- A command: its name, help text and options. -/
structure CommandSpec where
  name : String
  help : String
  options : List OptionSpec
  deriving Repr, Inhabited

/-- A program: its name, help text, own options and commands. -/
structure ProgramSpec where
  name : String
  help : String
  options : List OptionSpec
  commands : List CommandSpec
  deriving Repr, Inhabited

/-- The prefix of a flag: its leading dashes (one for a single character flag). -/
def flagPrefixLength (flag : String) : Nat :=
  if flag.startsWith "--" then 2 else if flag.startsWith "-" then 1 else 0

/-- The first column of an option's help: its flags, shortest prefix first, and metavariable. -/
def OptionSpec.helpTerm (o : OptionSpec) : String :=
  let flags := o.flags.mergeSort fun a b => flagPrefixLength a ≤ flagPrefixLength b
  let term := ", ".intercalate flags
  match o.arity with
  | .flag => term
  | .value metavar => term ++ " " ++ metavar

/-- The second column of an option's help: its help with its default and whether it is
required. -/
def OptionSpec.helpText (o : OptionSpec) : String :=
  let extras := (o.shownDefault.map fun d => "default: " ++ d).toList ++ (if o.required then ["required"] else [])
  if extras.isEmpty then o.help
  else
    let extra := "[" ++ "; ".intercalate extras ++ "]"
    if o.help.isEmpty then extra else o.help ++ "  " ++ extra

/-- The usage line of a command path with its arguments. -/
def usageLine (commandPath arguments : String) : String :=
  let pre := "Usage: " ++ commandPath ++ " "
  fill helpWidth pre (String.ofList (List.replicate pre.length ' ')) arguments

/-- A section of help: a heading and a definition list. -/
def helpSection (heading : String) (rows : List (String × String)) : String :=
  if rows.isEmpty then "" else "\n" ++ heading ++ ":\n" ++ definitionList 2 rows

/-- The help text paragraph of a command. -/
def helpParagraph (help : String) : String :=
  if help.isEmpty then "" else "\n" ++ fill helpWidth "  " "  " help ++ "\n"

/-- The help of a command, given its path. -/
def CommandSpec.helpPage (c : CommandSpec) (commandPath : String) : String :=
  usageLine commandPath "[OPTIONS]" ++ "\n" ++ helpParagraph c.help ++
    helpSection "Options" (c.options.map fun o => (o.helpTerm, o.helpText))

/-- The usage line of a command, given its path. -/
def CommandSpec.usage (_c : CommandSpec) (commandPath : String) : String :=
  usageLine commandPath "[OPTIONS]"

/-- The usage line of a program. -/
def ProgramSpec.usage (p : ProgramSpec) : String :=
  usageLine p.name "[OPTIONS] COMMAND [ARGS]..."

/-- The help of a program: usage, help, options, and its commands by name with short help. -/
def ProgramSpec.helpPage (p : ProgramSpec) : String :=
  let commands := p.commands.mergeSort fun a b => decide (a.name ≤ b.name)
  let widest := commands.foldl (fun w c => max w c.name.length) 0
  let limit := helpWidth - 6 - widest
  p.usage ++ "\n" ++ helpParagraph p.help ++
    helpSection "Options" (p.options.map fun o => (o.helpTerm, o.helpText)) ++
    helpSection "Commands" (commands.map fun c => (c.name, (shortHelp c.help limit).trimAscii.copy))

end Federation.Cli
