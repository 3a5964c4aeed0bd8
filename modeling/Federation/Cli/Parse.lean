import Federation.Cli.Command
import Federation.Cli.Similarity
import Federation.Text.Quote

/-!
# Reading a command line

Arguments are read left to right. `--` ends the options. An argument of two or more characters
starting with `-` is an option:

* a long option (`--name`, or `--name=value`) must be known exactly; otherwise the error suggests
  the known long options most like it;
* anything else starting with a single dash is a group of single-character options (`-hv`);
* an option taking a value takes the rest of its group, the text after `=`, or the next argument,
  whatever it looks like; a switch takes no value.

Other arguments are left over. A program stops reading its own options at the first argument
left over (the command); a command reads its options anywhere among its arguments.

Options given again replace the earlier value.

An unknown option is reported with the usage of the command it was read for; an option that
lacks its value, or a switch given one, is reported alone.
-/

namespace Federation.Cli

/-- A value given to an option. -/
inductive OptionValue where
  | switch
  | text (s : String)
  deriving Repr, Inhabited, BEq

/-- What reading options gives: the value of each option given (the last one), the options in
the order given, and the arguments left over. -/
structure Parsed where
  values : List (String × OptionValue) := []
  order : List String := []
  leftover : List String := []
  deriving Repr, Inhabited

/-- The text value of an option, if given. -/
def Parsed.text? (p : Parsed) (dest : String) : Option String :=
  match p.values.lookup dest with
  | some (.text s) => some s
  | _ => none

/-- Whether a switch was given. -/
def Parsed.switched (p : Parsed) (dest : String) : Bool := (p.values.lookup dest).isSome

/-- Whether a flag is long: not a dash and one character. -/
def isLongFlag (flag : String) : Bool := !(flag.length == 2 && flag.startsWith "-" && !flag.startsWith "--")

/-- The option with a flag. -/
def findOption (options : List OptionSpec) (flag : String) : Option OptionSpec :=
  options.find? fun o => o.flags.contains flag

/-- The long flags of options, in order. -/
def longFlags (options : List OptionSpec) : List String :=
  options.flatMap fun o => o.flags.filter isLongFlag

/-- The message of an unknown option, with suggestions. -/
def noSuchOption (name : String) (suggestions : List String) : String :=
  let base := "No such option: " ++ name
  match suggestions.mergeSort fun a b => decide (a ≤ b) with
  | [] => base
  | [one] => base ++ " Did you mean " ++ one ++ "?"
  | many => base ++ " (Possible options: " ++ ", ".intercalate many ++ ")"

/-- A mistake found while reading options. -/
inductive OptionError where
  /-- An option that is not known; shown with the usage of the command. -/
  | unknown (message : String)
  /-- A known option used wrongly; shown alone. -/
  | misused (message : String)
  deriving Repr, Inhabited, BEq

/-- The message of a mistake in the options. -/
def OptionError.message : OptionError → String
  | .unknown m | .misused m => m

/-- The state of reading: arguments still to read and what was read. -/
structure ReadState where
  rest : List String
  parsed : Parsed := {}

/-- Records an option's value. -/
def ReadState.record (s : ReadState) (o : OptionSpec) (v : OptionValue) : ReadState :=
  { s with parsed := { s.parsed with
      values := (s.parsed.values.filter (·.1 != o.dest)) ++ [(o.dest, v)],
      order := s.parsed.order ++ [o.dest] } }

/-- Takes the value of an option from the arguments still to read. -/
def takeValue (s : ReadState) (name : String) : Except OptionError (String × ReadState) :=
  match s.rest with
  | v :: rest => .ok (v, { s with rest })
  | [] => .error (.misused ("Option " ++ Text.quoteText name ++ " requires an argument."))

/-- Reads a group of single-character options. -/
def readShortGroup (options : List OptionSpec) (arg : String) (s : ReadState) :
    Except OptionError ReadState :=
  go (arg.toList.drop 1) s
where
  go : List Char → ReadState → Except OptionError ReadState
    | [], s => .ok s
    | c :: more, s => do
      let name := String.ofList ['-', c]
      match findOption options name with
      | none => .error (.unknown (noSuchOption name []))
      | some o =>
        match o.arity with
        | .flag => go more (s.record o .switch)
        | .value _ =>
          let s := if more.isEmpty then s else { s with rest := String.ofList more :: s.rest }
          let (v, s) ← takeValue s name
          .ok (s.record o (.text v))

/-- An option argument split at its first '=': the flag, and the value written with it, if any. -/
def splitAssignment (arg : String) : String × Option String :=
  match arg.toList.span (· != '=') with
  | (name, _ :: value) => (String.ofList name, some (String.ofList value))
  | (name, []) => (String.ofList name, none)

/-- Reads an argument that is an option. -/
def readOption (options : List OptionSpec) (arg : String) (s : ReadState) :
    Except OptionError ReadState :=
  let (name, explicit) := splitAssignment arg
  match (findOption options name).filter (fun _ => isLongFlag name) with
  | some o =>
    match o.arity, explicit with
    | .value _, some v => .ok (s.record o (.text v))
    | .value _, none => do
      let (v, s) ← takeValue s name
      .ok (s.record o (.text v))
    | .flag, some _ => .error (.misused ("Option " ++ Text.quoteText name ++ " does not take a value."))
    | .flag, none => .ok (s.record o .switch)
  | none =>
    if arg.startsWith "--" then .error (.unknown (noSuchOption name (closeMatches name (longFlags options))))
    else readShortGroup options arg s

/-- Reads the options among arguments; a program stops at its first other argument. -/
def readOptions (options : List OptionSpec) (interspersed : Bool) (args : List String) :
    Except OptionError Parsed :=
  go (args.length + 1) { rest := args }
where
  go : Nat → ReadState → Except OptionError Parsed
    | 0, s => .ok { s.parsed with leftover := s.parsed.leftover ++ s.rest }
    | fuel + 1, s =>
      match s.rest with
      | [] => .ok s.parsed
      | arg :: rest =>
        if arg == "--" then .ok { s.parsed with leftover := s.parsed.leftover ++ rest }
        else if arg.startsWith "-" && arg.length > 1 then do
          let s ← readOption options arg { s with rest }
          go fuel s
        else if interspersed then
          go fuel { rest, parsed := { s.parsed with leftover := s.parsed.leftover ++ [arg] } }
        else .ok { s.parsed with leftover := s.parsed.leftover ++ s.rest }

/-- The eager option given first, if any. -/
def firstEager (options : List OptionSpec) (p : Parsed) : Option String :=
  p.order.find? fun dest => (options.find? (·.dest == dest)).any (·.eager)

/-- The first required option not given, in order. -/
def firstMissing (options : List OptionSpec) (p : Parsed) : Option OptionSpec :=
  options.find? fun o => o.required && (p.values.lookup o.dest).isNone

/-- The message of a missing option. -/
def missingOption (o : OptionSpec) : String :=
  "Missing option " ++ " / ".intercalate (o.flags.map fun f => "'" ++ f ++ "'") ++ "."

/-- The message of arguments left over. -/
def unexpectedArguments (args : List String) : String :=
  "Got unexpected extra argument" ++ (if args.length == 1 then "" else "s") ++ " (" ++ " ".intercalate args ++ ")"

end Federation.Cli
