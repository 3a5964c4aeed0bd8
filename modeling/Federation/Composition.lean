import Federation.Ledger
import Federation.Metadata
import Federation.Schema.Build
import Federation.Schema.Validation
import Federation.Schema.Printer

/-!
# Composition

Services are composed into one schema in two passes over their ledger. The base definitions are
validated against a schema that has only the composition directives, then applied to it. The
extensions are validated against the result; those of a type of another kind are then left
out, and the rest applied. Validation errors are collected and returned beside the schema: they
never stop the composition. A type that objects named `Query`, `Mutation` and `Subscription`
make roots of the schema, and the metadata of the ledger's types is read off the result.

Building fails when a declaration that takes part refers to a type that exists nowhere, or a
default cannot be read; the composition then fails as a whole, with the validation errors found
up to the pass that failed.
-/

namespace Federation

open Syntax Schema

/-- A schema that could not be built: why, with the validation errors found before it. -/
structure Unbuildable where
  message : String
  errors : List String := []
  deriving Repr

/-- Why services could not be composed. -/
inductive CompositionError where
  /-- A declaration refers to a type the schema does not have, or a default cannot be read. -/
  | unbuildable (failure : Unbuildable)
  /-- A `@deprecated` or `@specifiedBy` argument does not fit the directive. -/
  | invalidArgument (message : String)
  /-- Reading the field set of a federation directive met a fault. -/
  | fault (f : Fault)
  deriving Repr

/-- The text of a composition error. -/
def CompositionError.message : CompositionError → String
  | .unbuildable f => f.message
  | .invalidArgument m => m
  | .fault f => f.message

/-- A composition error that carries, when the schema could not be built, the validation errors
found before it. -/
def CompositionError.withErrors (errors : List String) : CompositionError → CompositionError
  | .unbuildable f => .unbuildable { f with errors }
  | e => e

/-- A composed schema with the validation errors found on the way and its metadata
(`CompositionResult`). -/
structure Composition where
  schema : Schema
  errors : List String
  metadata : Metadata
  deriving Inhabited

/-- Whether a composition found validation errors (`has_errors`). -/
def Composition.hasErrors (c : Composition) : Bool := !c.errors.isEmpty

/-- A schema extended by a document, its members built at a height of the call stack, or why
it could not be (`_extend`). -/
def extendStep (s : Schema) (doc : List Definition) (height : Nat) :
    Except CompositionError Schema :=
  match s.extend doc height with
  | .ok s => .ok s
  | .error (.mismatch m) => .error (.unbuildable { message := "Unable to build composed schema: " ++ m })
  | .error (.invalidArgument m) => .error (.invalidArgument m)
  | .error (.fault f) => .error (.fault f)

/-- Whether an extension applies to a schema: its type is absent or of the extension's kind
(`_extension_applies`). -/
def extensionApplies (s : Schema) (d : TypeDeclaration) : Bool :=
  match s.type? d.name with
  | none => true
  | some t => t.kind == d.kind

/-- The schema the base definitions are validated against and applied to. -/
def compositionBase : Schema := Schema.ofDirectives compositionDirectives

/-- Merges base definitions, then extensions, into a new schema, with the validation errors of
both passes. Merging runs at a height of the call stack; the members of types are built six
frames above it, where the new schema collects its types. A pass whose schema cannot be built
fails with the validation errors found up to it (`assemble_schema`). -/
def assembleSchema (definitions extensions : Table (List TypeDeclaration)) (height : Nat) :
    Except CompositionError (Schema × List String) := do
  let defsDoc := definitions.flatMap fun (_, ds) => ds.map Definition.type
  let baseErrors := validateDeclarations compositionBase defsDoc
  let schema ← (extendStep compositionBase defsDoc (height + 6)).mapError (·.withErrors baseErrors)
  let exts := extensions.flatMap (·.2)
  let extensionErrors := validateDeclarations schema (exts.map Definition.typeExtension)
  let applicable := (exts.filter (extensionApplies schema)).map Definition.typeExtension
  let schema ← (extendStep schema applicable (height + 6)).mapError
    (·.withErrors (baseErrors ++ extensionErrors))
  pure (schema.withRootTypes, baseErrors ++ extensionErrors)

/-- Composes services, in order, into one schema with its errors and metadata, at a height of
the call stack (`compose_services`). -/
def compose (services : List Service) (height : Nat) : Except CompositionError Composition := do
  let ledger := (Ledger.build services).synthesize
  let (schema, errors) ← assembleSchema ledger.definitions ledger.extensions (height + 1)
  let metadata ← (annotate schema ledger.ownership (height + 1)).mapError .fault
  pure { schema, errors, metadata }

/-- The root operation types of a composed schema: query, mutation and subscription. -/
def Composition.roots (c : Composition) : List (Option String) :=
  [c.schema.query, c.schema.mutation, c.schema.subscription]

/-- The metadata report of a composition (`build_metadata_report`). -/
def Composition.report (c : Composition) : JsonValue := c.metadata.report c.errors

end Federation
