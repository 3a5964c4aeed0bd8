import Federation.Workspace.FileSystem

/-!
# Configuration scaffold

A configuration template with every value a placeholder and comments on how to fill it in. It
is written only where no file or directory exists yet.
-/

namespace Federation.Configuration

open Workspace

/-- The name a configuration file has unless another is given. -/
def defaultConfigFilename : String := "composition.yaml"

/-- The configuration template (`build_placeholder_configuration`). -/
def placeholderConfiguration : String :=
  "# Composition configuration template for federation-composer.\n" ++
  "# Replace every <REQUIRED> placeholder before running compose or validate.\n" ++
  "# Replace <OPTIONAL> placeholders only when your setup needs them.\n" ++
  "\n" ++
  "services:\n" ++
  "  # Services are composed in the listed order; later services win ownership ties.\n" ++
  "  - name: \"<REQUIRED>\"\n" ++
  "    # Provide either inline SDL text or an SDL file path relative to this file.\n" ++
  "    path: \"<REQUIRED>\"\n" ++
  "    # inline: \"<OPTIONAL>\"\n" ++
  "  - name: \"<REQUIRED>\"\n" ++
  "    inline: |\n" ++
  "      <REQUIRED>\n" ++
  "\n" ++
  "output:\n" ++
  "  schema_path: \"<OPTIONAL>\"\n" ++
  "  metadata_path: \"<OPTIONAL>\"\n" ++
  "  # Exit with a failure status when composition reports structural errors.\n" ++
  "  fail_on_errors: false\n"

/-- Why the template could not be written. -/
inductive ScaffoldError where
  /-- Something already exists at the path, given resolved. -/
  | alreadyExists (resolved : Path)
  /-- Writing failed. -/
  | system (e : OsError)
  /-- The path holds a NUL character. -/
  | nulPath
  deriving Repr, Inhabited

/-- The text of a scaffold error. -/
def ScaffoldError.message : ScaffoldError → String
  | .alreadyExists p => "Configuration file already exists: " ++ p.toText
  | .system e => e.message
  | .nulPath => nulPathMessage

variable {m : Type → Type} [Monad m] [FileSystem m]

/-- Writes the template at a path where nothing exists, giving the path resolved
(`write_placeholder_configuration`). -/
def writePlaceholderConfiguration (outputPath : String) : m (Except ScaffoldError Path) := do
  let destination := Path.ofString outputPath
  if ← FileSystem.pathExists destination then
    return .error (.alreadyExists (← FileSystem.resolvePath destination))
  if destination.holdsNul then return .error .nulPath
  match ← FileSystem.writeText destination placeholderConfiguration with
  | .error e => return .error (.system e)
  | .ok () => return .ok (← FileSystem.resolvePath destination)

end Federation.Configuration
