import Federation.Service
import Federation.Workspace.FileSystem

/-!
# Services from files

A service read from an SDL file: the path must name a file (not a directory), whose text is then
parsed like SDL given directly.
-/

namespace Federation

open Workspace

/-- Reads the service a file defines, under a name, at a height of the call stack
(`load_service_definition`). -/
def loadService {m : Type → Type} [Monad m] [FileSystem m] (name : Option String) (path : String)
    (height : Nat) : m (Except ServiceError Service) := do
  let sdlPath := Path.ofString path
  if !(← FileSystem.isFile sdlPath) then return .error (.fileNotFound sdlPath.toText)
  match ← FileSystem.readText sdlPath with
  | .ok text => return Service.parse name text (height + 1)
  | .error _ => return .error (.fileNotFound sdlPath.toText)

end Federation
