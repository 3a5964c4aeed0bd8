import Federation.Cli.App
import Federation.Proofs.ConfigurationRules
import Federation.Proofs.Failure
import Mathlib.Data.List.TakeDrop
import Mathlib.Data.List.TakeWhile

/-!
# How the compose and validate commands end when composition fails

A command line `compose --config PATH` or `validate --config PATH` reaches its command with the
path alone (`runProgram_config`): the program reads no options of its own before the command's
name, and the configuration option takes the next argument whatever it looks like. Both commands
load the configuration, parse the services and compose them before they print anything, so when
composing fails the run ends by the kind of the error alone (`compositionFailure`): an
unbuildable schema fails the command with status 1 and the failure's message on the error
stream, while an argument that does not read and a fault escape the command
(`run_reports_composition_failure`, after `_compose` and `main`). Where every directive's
arguments read, the only failure that escapes is a fault met reading a directive's field set
(`run_exits_unless_field_set_fault`).
-/

namespace Federation.Cli

open Federation.Workspace

/-! ### Reading the command line -/

section Options

/-- An argument without `=` is a flag alone. -/
lemma splitAssignment_of_not_mem {arg : String} (h : '=' ∉ arg.toList) :
    splitAssignment arg = (arg, none) := by
  have hall : ∀ c ∈ arg.toList, (c != '=') = true := fun c hc => by
    simp only [bne_iff_ne, ne_eq]
    rintro rfl
    exact h hc
  unfold splitAssignment
  rw [List.span_eq_takeWhile_dropWhile, List.takeWhile_eq_self_iff.2 hall,
    List.dropWhile_eq_nil_iff.2 hall]
  simp

/-- Reading options that may not be interspersed stops at the first argument that does not start
with a dash, and leaves it with all that follows. -/
lemma readOptions_stops {options : List OptionSpec} {name : String} {rest : List String}
    (hname : name.startsWith "-" = false) :
    readOptions options false (name :: rest) = .ok { leftover := name :: rest } := by
  have hsep : (name == "--") = false := by
    rw [beq_eq_false_iff_ne]
    rintro rfl
    simp at hname
  simp [readOptions, readOptions.go, hsep, hname]

/-- The long flag of a value option, written without `=`, takes the next argument as its value,
whatever that argument looks like. -/
lemma readOptions_long_value {options : List OptionSpec} {o : OptionSpec}
    {flag value metavar : String} (hfind : findOption options flag = some o)
    (harity : o.arity = .value metavar) (hlong : flag.startsWith "--" = true) (hflag : flag ≠ "--")
    (hplain : '=' ∉ flag.toList) :
    readOptions options true [flag, value] =
      .ok { values := [(o.dest, .text value)], order := [o.dest] } := by
  -- a long flag starts with a dash and is longer than one character, so it is read as an option
  have hprefix : ['-', '-'] <+: flag.toList := by simpa [String.startsWith_string_iff] using hlong
  have hdash : flag.startsWith "-" = true := by
    rw [String.startsWith_string_iff]
    exact (List.prefix_cons_inj _ |>.mpr List.nil_prefix).trans hprefix
  have hlen : flag.length > 1 := by
    have := hprefix.length_le
    simp only [List.length_cons, List.length_nil, String.length_toList] at this
    omega
  simp [readOptions, readOptions.go, readOption, hdash, hlen, hflag, splitAssignment_of_not_mem hplain,
    hfind, isLongFlag, hlong, harity, takeValue, ReadState.record, Option.filter_some, bind,
    Except.bind]

end Options

/-- The options a command reads from its configuration option alone. -/
def configGiven (path : String) : Parsed :=
  { values := [("config_path", .text path)], order := ["config_path"] }

section Dispatch

variable {m : Type → Type} [Monad m] [FileSystem m]

/-- The compose and validate commands, given only their configuration path, run to their end with
that path. -/
lemma runProgram_config {c : CommandSpec} (hc : c = composeCommand ∨ c = validateCommand)
    (path : String) :
    runProgram (m := m) [c.name, "--config", path] = finish c (configGiven path) := by
  -- the program stops reading its options at the command's name; the command reads the path
  have hprogram : readOptions program.options false [c.name, "--config", path] =
      .ok { leftover := [c.name, "--config", path] } :=
    readOptions_stops (by rcases hc with rfl | rfl <;> simp [composeCommand, validateCommand])
  have hcommand : readOptions c.options true ["--config", path] = .ok (configGiven path) :=
    readOptions_long_value (o := configOption) (by rcases hc with rfl | rfl <;> rfl) rfl (by simp)
      (by simp) (by simp)
  have hfind : program.commands.find? (·.name == c.name) = some c := by
    rcases hc with rfl | rfl <;> rfl
  -- the path is neither an eager option nor leaves a required one missing
  have heager : firstEager c.options (configGiven path) = none := by
    rcases hc with rfl | rfl <;> rfl
  have hmissing : firstMissing c.options (configGiven path) = none := by
    rcases hc with rfl | rfl <;> rfl
  simp only [runProgram, List.isEmpty_cons, Bool.false_eq_true, ↓reduceIte, hprogram, hfind,
    hcommand, heager, hmissing]
  rfl

end Dispatch

/-! ### Failed compositions -/

/-- How a run ends when composing the configured services fails: an unbuildable schema fails the
command, which prints the failure's message and exits with status 1; an argument that does not
read, or a fault, escapes the command. -/
def compositionFailure : CompositionError → RunResult
  | .unbuildable f => .exited 1 { stderr := f.message ++ "\n" }
  | .invalidArgument message => .crashed "GraphQLError" message {}
  | .fault f => .crashed f.kind f.message {}

section Failure

open Federation.Configuration

variable {c : CommandSpec} {ws : FileTree} {path : String} {config : CompositionConfig}
  {services : List Service} {e : CompositionError}

/-- The compose and validate commands end as `compositionFailure` says when the configuration
loads, the services parse, and composing them fails: nothing is printed before. -/
lemma finish_of_compose_error (hc : c = composeCommand ∨ c = validateCommand)
    (hload : ((loadConfiguration path (commandStepHeight + 1) : Load CompositionConfig).run.run ws).1 =
      .ok config)
    (hparse : config.services.mapM
      (fun s => Service.parse (some s.name) s.sdlText (commandStepHeight + 2)) = .ok services)
    (hcompose : compose services (commandStepHeight + 1) = .error e) :
    ((finish c (configGiven path) : StateM FileTree RunResult).run ws).1 = compositionFailure e := by
  obtain ⟨ws', hl⟩ : ∃ ws', (loadConfiguration path (commandStepHeight + 1) : Load CompositionConfig).run.run ws =
      pure (.ok config, ws') := ⟨_, Prod.ext hload rfl⟩
  have hcompose' : runCommand composeCommand (configGiven path) =
      runCompose (m := StateM FileTree) path none none false := rfl
  have hvalidate : runCommand validateCommand (configGiven path) =
      runValidate (m := StateM FileTree) path := rfl
  rcases hc with rfl | rfl
  · rw [finish, hcompose']
    cases e <;> simp [runCompose, loadStep, composeStep, onFiles, hl, hparse, hcompose,
      compositionFailure] <;> rfl
  · rw [finish, hvalidate]
    cases e <;> simp [runValidate, loadStep, composeStep, onFiles, hl, hparse, hcompose,
      compositionFailure] <;> rfl

/-- A command line that asks the compose or validate command to compose services that fail to
compose ends as `compositionFailure` says: with status 1 and the message when the schema cannot
be built, else with the error escaping the program. -/
theorem run_reports_composition_failure (hc : c = composeCommand ∨ c = validateCommand)
    (hload : ((loadConfiguration path (commandStepHeight + 1) : Load CompositionConfig).run.run ws).1 =
      .ok config)
    (hparse : config.services.mapM
      (fun s => Service.parse (some s.name) s.sdlText (commandStepHeight + 2)) = .ok services)
    (hcompose : compose services (commandStepHeight + 1) = .error e) :
    ((runProgram [c.name, "--config", path] : StateM FileTree RunResult).run ws).1 =
      compositionFailure e := by
  rw [runProgram_config hc]
  exact finish_of_compose_error hc hload hparse hcompose

/-- When every directive the services apply has arguments that read, a failed composition makes
the compose and validate commands exit with status 1 and the message of the unbuildable schema,
unless reading the field set of a directive some service applies met a fault, which escapes. -/
theorem run_exits_unless_field_set_fault (hc : c = composeCommand ∨ c = validateCommand)
    (hload : ((loadConfiguration path (commandStepHeight + 1) : Load CompositionConfig).run.run ws).1 =
      .ok config)
    (hparse : config.services.mapM
      (fun s => Service.parse (some s.name) s.sdlText (commandStepHeight + 2)) = .ok services)
    (hread : ∀ s ∈ services, ∀ x ∈ s.document.definitions, ∀ d ∈ x.appliedDirectives,
      d.argumentsRead = true)
    (hcompose : compose services (commandStepHeight + 1) = .error e) :
    let outcome := ((runProgram [c.name, "--config", path] : StateM FileTree RunResult).run ws).1
    (∃ f, e = .unbuildable f ∧ outcome = .exited 1 { stderr := f.message ++ "\n" }) ∨
      ∃ f, outcome = .crashed f.kind f.message {} ∧ ∃ s ∈ services, ∃ x ∈ s.document.definitions,
        ∃ d ∈ x.appliedDirectives, ∃ depth, directiveSelections d depth = .error f := by
  intro outcome
  have houtcome : outcome = compositionFailure e :=
    run_reports_composition_failure hc hload hparse hcompose
  rcases compose_failsWith hread _ e hcompose with ⟨f, rfl⟩ | ⟨f, rfl, hsource⟩
  · exact .inl ⟨f, rfl, houtcome⟩
  · exact .inr ⟨f, houtcome, hsource⟩

end Failure

end Federation.Cli
