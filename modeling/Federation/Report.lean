import Federation.Composition
import Federation.Workspace.FileSystem

/-!
# Writing composition results

The results of a composition are the composed schema's SDL and the metadata report, indented
JSON with only ASCII characters. Each is written, followed by a line feed, to its path when one
is asked for: the schema first, then the report, each path made absolute and normalised before
anything is written; a path holding a NUL character is refused then.

Printing the schema can fail when a value in it cannot be written as a literal of its type.
-/

namespace Federation

open Workspace Schema

/-- Why results could not be written (`ReportWriteError`). -/
inductive ReportError where
  /-- The schema could not be printed, with the kind of failure and its message. -/
  | unprintable (kind message : String)
  /-- A file could not be written. -/
  | unwritable (e : OsError)
  /-- A path holds a NUL character. -/
  | nulPath
  deriving Repr, Inhabited

/-- The SDL of a composition's schema, rendered at a height of the call stack: the schema is
printed one frame higher (`render_composed_schema`). -/
def renderSchema (c : Composition) (height : Nat) : Except ReportError String :=
  match c.schema.print (height + 1) with
  | .ok text => .ok text
  | .error (.mismatch m) => .error (.unprintable "TypeError" m)
  | .error (.invalidArgument m) => .error (.unprintable "GraphQLError" m)
  | .error (.fault f) => .error (.unprintable f.kind f.message)

/-- The paths results were written to. -/
structure WrittenReport where
  schemaPath : Option Path
  metadataPath : Option Path
  deriving Repr, Inhabited

/-- A path made absolute and normalised, unless it holds a NUL character. -/
def resolveOutput {m : Type → Type} [Monad m] [FileSystem m] :
    Option Path → m (Except ReportError (Option Path))
  | some p => if p.holdsNul then pure (.error .nulPath) else (.ok ∘ some) <$> FileSystem.resolvePath p
  | none => pure (.ok none)

/-- Writes the schema and the metadata report of a composition where asked, at a height of the
call stack: the schema is rendered one frame higher (`write_composition_report`). -/
def writeReport {m : Type → Type} [Monad m] [FileSystem m] (c : Composition)
    (schemaPath metadataPath : Option Path) (height : Nat) : m (Except ReportError WrittenReport) := do
  let schemaPath ← match ← resolveOutput schemaPath with
    | .ok p => pure p
    | .error e => return .error e
  let metadataPath ← match ← resolveOutput metadataPath with
    | .ok p => pure p
    | .error e => return .error e
  if let some p := schemaPath then
    match renderSchema c (height + 1) with
    | .error e => return .error e
    | .ok text =>
      match ← FileSystem.writeText p (text ++ "\n") with
      | .error e => return .error (.unwritable e)
      | .ok () => pure ()
  if let some p := metadataPath then
    match ← FileSystem.writeText p (c.report.pretty ++ "\n") with
    | .error e => return .error (.unwritable e)
    | .ok () => pure ()
  return .ok { schemaPath, metadataPath }

end Federation
