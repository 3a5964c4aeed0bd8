import Federation.Syntax.Parser
import Federation.Text.Blank

/-!
# Services

A service is a named GraphQL document. Its name is trimmed of blanks and must not be empty; its
text must be a valid document. A service read from a file names the file when it is missing.
-/

namespace Federation

open Syntax

/-- A named document contributed to a composition (`ServiceDefinition`). -/
structure Service where
  name : String
  document : Document
  deriving Repr, Inhabited

/-- Why a service could not be made (`ServiceDefinitionError`). -/
inductive ServiceError where
  | emptyName
  /-- The text is not a valid document; the report is the text of its syntax error. -/
  | invalidDocument (name : String) (report : String)
  | fileNotFound (path : String)
  /-- Reading the text, or writing the text of its syntax error, met a fault. -/
  | fault (f : Fault)
  deriving Repr

/-- The message of a service error. -/
def ServiceError.message : ServiceError → String
  | .emptyName => "Service name must not be empty."
  | .invalidDocument name report => "Invalid SDL for service '" ++ name ++ "': " ++ report
  | .fileNotFound path => "SDL file not found: " ++ path
  | .fault f => f.message

/-- The kind of a service error, as it is reported. -/
def ServiceError.kind : ServiceError → String
  | .fault f => f.kind
  | _ => "ServiceDefinitionError"

/-- Makes a service from a name, if it is a text, and the text of its document, at a height of
the call stack (`parse_service_definition`). -/
def Service.parse (name : Option String) (source : String) (height : Nat) :
    Except ServiceError Service := do
  let name := (name.map Text.trimBlanks).getD ""
  if name.isEmpty then throw .emptyName
  match Parser.parse source (height + 1) with
  | .ok document => pure ⟨name, document⟩
  | .error (.fault f) => throw (.fault f)
  | .error (.malformed e) =>
    match e.render source.toList with
    | .ok report => throw (.invalidDocument name report)
    | .error f => throw (.fault f)

end Federation
