import Federation.Configuration.Settings
import Federation.Workspace.FileSystem
import Federation.Yaml.Construct

/-!
# Loading a configuration

A configuration file is YAML (so also JSON). An empty file counts as an empty mapping; anything
but a mapping is refused. Its sections:

* `services`: a non-empty list. Each entry is a mapping with a `name` (a string, trimmed, not
  empty, not repeated) and exactly one of `inline` (SDL text, kept as written) and `path` (an SDL
  file, relative to the configuration's directory unless absolute, which must exist).
* `output`: absent, or a mapping with optional `schema_path` and `metadata_path` (strings; blank
  ones count as absent; resolved like service paths) and `fail_on_errors` (a boolean, false when
  absent).

Values count as set the way YAML values count as true: an empty string, a zero, null or an empty
collection is unset. Entries are checked in order, each section after the one before it, and the
first problem is the error.
-/

namespace Federation.Configuration

open Workspace Yaml

/-- Why a configuration could not be loaded (`ConfigurationError`). -/
inductive LoadError where
  /-- The configuration is missing, malformed or breaks a rule above. -/
  | invalid (message : String)
  /-- A file could not be read. -/
  | system (e : OsError)
  /-- Reading a value of the YAML text failed outside the rules of YAML. -/
  | crash (kind message : String)
  deriving Repr, Inhabited, DecidableEq

/-- The kind of a load error, as messages name it. -/
def LoadError.kind : LoadError → String
  | .invalid _ => "ConfigurationError"
  | .system e => e.kind
  | .crash kind _ => kind

/-- The text of a load error. -/
def LoadError.message : LoadError → String
  | .invalid m => m
  | .system e => e.message
  | .crash _ m => m

/-- The load error of a YAML failure on a text. -/
def yamlLoadError (text : String) : YamlFailure → LoadError
  | .crash kind message => .crash kind message
  | f => .invalid ("Failed to parse configuration file: " ++ f.render (text.toList ++ ['\x00']).toArray)

/-- The items of a value that is a sequence: a list's items, an ordered map's pairs (each a
two-item list) or the bytes of binary data (each an integer); none for other values. -/
def sequenceItems (d : YamlDocument) : YamlValue → Option (List YamlValue)
  | .seq items => some (items.map d.valueAt)
  | .pairs items => some (items.map fun (k, v) => .seq [k, v])
  | .bytes data => some (data.map fun b => .int b.toNat)
  | _ => none

/-- The pairs of a value that must be a mapping (`_require_mapping`). -/
def requireMapping (v : Option YamlValue) (sectionName : String) : Except LoadError (List (Nat × Nat)) :=
  match v with
  | some (.map entries) => .ok entries
  | _ => .error (.invalid ("Configuration section '" ++ sectionName ++ "' is required."))

/-- A value that must be a non-blank string, trimmed (`_require_non_empty_string`). -/
def requireNonEmptyString (v : Option YamlValue) (field : String) : Except LoadError String :=
  match v with
  | some (.str s) =>
    let trimmed := Text.trimBlanks s
    if trimmed.isEmpty then .error (.invalid (field ++ " must not be empty.")) else .ok trimmed
  | _ => .error (.invalid (field ++ " must be a string."))

/-- A value that may be absent or a string, trimmed; blank counts as absent (`_optional_string`). -/
def optionalString (v : Option YamlValue) (field : String) : Except LoadError (Option String) :=
  match v with
  | none | some .null => .ok none
  | some (.str s) =>
    let trimmed := Text.trimBlanks s
    .ok (if trimmed.isEmpty then none else some trimmed)
  | _ => .error (.invalid (field ++ " must be a string."))

/-- Whether an optional value is set. -/
def isSet : Option YamlValue → Bool
  | some v => v.truthy
  | none => false

variable {m : Type → Type} [Monad m] [FileSystem m]

/-- A path of a configuration: relative ones against the configuration's directory, made
absolute and normalised, which a path holding a NUL character cannot be; absolute ones as
written (`_resolve_path`). -/
def resolveAgainst (base : Path) (raw : String) : ExceptT LoadError m Path := do
  let candidate := Path.ofString raw
  if candidate.absolute then return candidate
  let joined := base.join candidate
  if joined.holdsNul then throw (.crash nulPathKind nulPathMessage)
  FileSystem.resolvePath joined

/-- Lifts a check into loading. -/
def check {α : Type} (r : Except LoadError α) : ExceptT LoadError m α := ExceptT.mk (pure r)

/-- The SDL of a service entry: its inline text, or the text of its file
(`_load_sdl_definition`). -/
def loadSdl (d : YamlDocument) (entry : List (Nat × Nat)) (base : Path) (label : String) :
    ExceptT LoadError m (String × Option Path) := do
  let inline := d.lookup entry "inline"
  let pathValue := d.lookup entry "path"
  if isSet inline && isSet pathValue then
    throw (.invalid (label ++ " must not set both inline and path."))
  if isSet inline then
    match inline with
    | some (.str s) => return (s, none)
    | _ => throw (.invalid (label ++ ".inline must be a string."))
  if isSet pathValue then
    match pathValue with
    | some (.str raw) =>
      let sdlPath ← resolveAgainst base raw
      if !(← FileSystem.pathExists sdlPath) then
        throw (.invalid ("SDL file not found: " ++ sdlPath.toText))
      match ← FileSystem.readText sdlPath with
      | .ok text => return (text, some sdlPath)
      | .error e => throw (.system e)
    | _ => throw (.invalid (label ++ ".path must be a string."))
  throw (.invalid (label ++ " requires either inline or path."))

/-- The services section: its entries in order, with distinct names (`_parse_services_section`). -/
def parseServices (d : YamlDocument) (value : Option YamlValue) (base : Path) :
    ExceptT LoadError m (List ServiceSource) := do
  let items : Option (List YamlValue) := match value with
    | some v => (sequenceItems d v).filter fun (xs : List YamlValue) => !xs.isEmpty
    | none => none
  let some items := items
    | throw (LoadError.invalid "Configuration section 'services' must be a non-empty list.")
  let rec go : Nat → List YamlValue → List String → ExceptT LoadError m (List ServiceSource)
    | _, [], _ => pure []
    | index, item :: rest, seen => do
      let label := "services[" ++ toString index ++ "]"
      let entry ← check (requireMapping (some item) label)
      let name ← check (requireNonEmptyString (d.lookup entry "name") (label ++ ".name"))
      if seen.contains name then throw (LoadError.invalid ("Duplicate service name: " ++ name))
      let (sdlText, sourcePath) ← loadSdl d entry base label
      let others ← go (index + 1) rest (name :: seen)
      pure (⟨name, sdlText, sourcePath⟩ :: others)
  go 0 items []

/-- Whether composition errors fail a run, as an output section sets it: false when unset. -/
def failOnErrorsSetting (v : Option YamlValue) : Except LoadError Bool :=
  match v.getD (.bool false) with
  | .bool b => .ok b
  | _ => .error (.invalid "output.fail_on_errors must be a boolean.")

/-- An optional path of a configuration, resolved when it is given. -/
def resolveOptional (base : Path) : Option String → ExceptT LoadError m (Option Path)
  | some p => some <$> resolveAgainst base p
  | none => pure none

/-- The output section (`_parse_output_section`). -/
def parseOutput (d : YamlDocument) (value : Option YamlValue) (base : Path) :
    ExceptT LoadError m OutputSettings := do
  match value with
  | none | some .null => return {}
  | _ =>
    let entry ← check (requireMapping value "output")
    let schemaPath ← check (optionalString (d.lookup entry "schema_path") "output.schema_path")
    let metadataPath ← check (optionalString (d.lookup entry "metadata_path") "output.metadata_path")
    let failOnErrors ← check (failOnErrorsSetting (d.lookup entry "fail_on_errors"))
    let schemaPath ← resolveOptional base schemaPath
    let metadataPath ← resolveOptional base metadataPath
    return { schemaPath, metadataPath, failOnErrors }

/-- Loads and checks the configuration file at a path, at a height of the call stack
(`load_configuration`). -/
def loadConfiguration (configPath : String) (height : Nat) :
    ExceptT LoadError m CompositionConfig := do
  let path := Path.ofString configPath
  if !(← FileSystem.pathExists path) then
    throw (.invalid ("Configuration file not found: " ++ path.toText))
  let text ← match ← FileSystem.readText path with
    | .ok text => pure text
    | .error e => throw (.system e)
  let d ← match safeLoad text (height + 1) with
    | .ok d => pure d
    | .error f => throw (yamlLoadError text f)
  let root ← match d.rootValue with
    | .null => pure []
    | .map entries => pure entries
    | _ => throw (.invalid "Configuration root must be a mapping.")
  let services ← parseServices d (d.lookup root "services") path.parent
  let output ← parseOutput d (d.lookup root "output") path.parent
  return { path, services, output }

end Federation.Configuration
