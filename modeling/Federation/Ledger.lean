import Federation.Service
import Federation.Data.Table

/-!
# Ledgers

A ledger sorts the type declarations of all services, in service order, into base definitions
and extensions, each grouped by type name in order of first appearance, and keeps an ownership
record per type name:

* the services that declared the type as a base type, repeats included, the last of them
  owning the type;
* for each member (field or enum value) added by an object, input object or enum extension, the
  services that claimed it, the last of them owning the member. Interface, union and scalar
  extensions claim nothing.

Fields marked `@external` are removed from object definitions and extensions before anything
else: such a field only names a dependency on another service.

A type that is only extended gets an empty base declaration of the kind of its first extension,
a phantom base, and no owner.
-/

namespace Federation

open Syntax

/-- Who declared a type and who claimed the members its extensions add (`OwnershipRecord`). -/
structure Ownership where
  owningService : Option String := none
  baseServices : List String := []
  extensionFieldOwners : Table String := []
  extensionClaims : Table (List String) := []
  deriving Repr, Inhabited

/-- Records a base declaration by a service, which becomes the owner (`declare_base`). -/
def Ownership.declareBase (r : Ownership) (service : String) : Ownership :=
  { r with baseServices := r.baseServices ++ [service], owningService := some service }

/-- Records a service's claim of a member, which becomes the member's owner
(`claim_extension_member`). -/
def Ownership.claim (r : Ownership) (service : String) (member : String) : Ownership :=
  { r with
    extensionClaims := r.extensionClaims.update member [] (· ++ [service])
    extensionFieldOwners := r.extensionFieldOwners.set member service }

/-- The declarations of all services, sorted into base definitions, extensions and ownership
(`CompositionLedgers`). -/
structure Ledger where
  definitions : Table (List TypeDeclaration) := []
  extensions : Table (List TypeDeclaration) := []
  ownership : Table Ownership := []
  deriving Repr, Inhabited

/-- Whether a directive list holds a directive of a name. -/
def hasDirective (directives : List Directive) (name : String) : Bool :=
  directives.any (·.name == name)

/-- An object declaration without its fields marked `@external`; other declarations unchanged
(`strip_external_fields`). -/
def Syntax.TypeDeclaration.stripExternal (d : TypeDeclaration) : TypeDeclaration :=
  match d.body with
  | .object interfaces fields =>
    { d with body := .object interfaces (fields.filter fun f => !hasDirective f.directives "external") }
  | _ => d

/-- The member names an extension claims: fields of object and input object extensions, values
of enum extensions. -/
def Syntax.TypeDeclaration.claimedMembers (d : TypeDeclaration) : List String :=
  match d.body with
  | .object _ fields => fields.map (·.name)
  | .inputObject fields => fields.map (·.name)
  | .enum values => values.map (·.name)
  | _ => []

namespace Ledger

/-- Records a base definition of a service (`_record_definition`). -/
def recordDefinition (l : Ledger) (service : String) (d : TypeDeclaration) : Ledger :=
  { l with
    ownership := l.ownership.update d.name {} (·.declareBase service)
    definitions := l.definitions.update d.name [] (· ++ [d]) }

/-- Records an extension of a service and the members it claims (`_record_extension`). -/
def recordExtension (l : Ledger) (service : String) (d : TypeDeclaration) : Ledger :=
  { l with
    ownership := l.ownership.update d.name {} fun r => d.claimedMembers.foldl (·.claim service) r
    extensions := l.extensions.update d.name [] (· ++ [d]) }

/-- Records one definition of a service; only type definitions and extensions count. -/
def record (service : String) (l : Ledger) : Definition → Ledger
  | .type d => l.recordDefinition service d.stripExternal
  | .typeExtension d => l.recordExtension service d.stripExternal
  | _ => l

/-- The ledger of services, in order (`build_ledgers`). -/
def build (services : List Service) : Ledger :=
  services.foldl (fun l s => s.document.definitions.foldl (record s.name) l) {}

/-- The empty base declaration of a name, of a kind (`empty_definition_for`). -/
def phantom (name : String) (kind : TypeKind) : TypeDeclaration :=
  ⟨none, name, [], TypeBody.empty kind⟩

/-- Gives every extended type without a definition a phantom base of its first extension's kind,
leaving it without an owner (`synthesize_phantom_bases`). -/
def synthesize (l : Ledger) : Ledger :=
  l.extensions.foldl (fun acc (name, extensions) =>
    if acc.definitions.contains name then acc
    else match extensions with
      | [] => acc
      | first :: _ =>
        { acc with
          definitions := acc.definitions.set name [phantom name first.kind]
          ownership := acc.ownership.update name {} fun r => { r with owningService := none } }) l

end Ledger

end Federation
