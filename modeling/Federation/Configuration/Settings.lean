import Federation.Workspace.Path

/-!
# Composition settings

What a configuration file says: the services to compose, in order, each with its SDL text and
the file it was read from (none for SDL given inline), and where the results go.
-/

namespace Federation.Configuration

open Workspace

/-- The SDL of one configured service. -/
structure ServiceSource where
  name : String
  sdlText : String
  sourcePath : Option Path
  deriving Repr, Inhabited, DecidableEq

/-- Where the results of a composition are written, and whether errors fail it. -/
structure OutputSettings where
  schemaPath : Option Path := none
  metadataPath : Option Path := none
  failOnErrors : Bool := false
  deriving Repr, Inhabited, DecidableEq

/-- A configuration: its file, its services and its output settings. -/
structure CompositionConfig where
  path : Path
  services : List ServiceSource
  output : OutputSettings
  deriving Repr, Inhabited, DecidableEq

end Federation.Configuration
