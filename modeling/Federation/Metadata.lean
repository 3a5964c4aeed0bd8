import Federation.Schema.Basic
import Federation.Ledger
import Federation.FieldSet
import Federation.Data.Json

/-!
# Federation metadata

What a composed schema records beside its types: for each type of the ledger that the schema
has, the service owning it and, for object types, its entity keys; for members, the service
that claimed them and the fields `@requires` and `@provides` name.

* The keys of an object type are read from the directives of its base declaration (the last
  one): each `@key` whose `fields` argument reads as a field set.
* An object field gets an entry when an extension claimed it or when it has a usable
  `@provides`; only claimed fields record `@requires`. The first directive of a name counts.
* An enum value or input field gets an entry for each extension claim of a member the final
  type has.

The owner of a member is the service that claimed it, or else the owner of its type.
-/

namespace Federation

open Syntax Schema

/-- Ownership and entity keys of a type. -/
structure TypeMetadata where
  serviceName : Option String
  keys : List (List Selection) := []
  deriving Repr, Inhabited

/-- Ownership and dependency selections of a field or enum value; the selections are none when
the directive is absent or unusable. -/
structure FieldMetadata where
  serviceName : Option String := none
  requires : Option (List Selection) := none
  provides : Option (List Selection) := none
  deriving Repr, Inhabited

/-- The metadata of a composed schema: types by name, members by type and member name
(`FederationMetadata`). -/
structure Metadata where
  types : Table TypeMetadata := []
  fields : Table (Table FieldMetadata) := []
  deriving Repr, Inhabited

namespace Metadata

/-- The metadata of a type, if it has any. -/
def typeMetadata (m : Metadata) (typeName : String) : Option TypeMetadata :=
  m.types.find? typeName

/-- The metadata of a member, if it has any. -/
def fieldMetadata (m : Metadata) (typeName fieldName : String) : Option FieldMetadata :=
  (m.fields.find? typeName).bind (·.find? fieldName)

/-- The service owning a type. -/
def typeOwner (m : Metadata) (typeName : String) : Option String :=
  (m.typeMetadata typeName).bind (·.serviceName)

/-- The service resolving a member: the one that claimed it, or else the owner of its type. -/
def fieldOwner (m : Metadata) (typeName fieldName : String) : Option String :=
  match (m.fieldMetadata typeName fieldName).bind (·.serviceName) with
  | some s => some s
  | none => m.typeOwner typeName

/-- The members of a type that have metadata, in order of entry. -/
def fieldsOf (m : Metadata) (typeName : String) : Table FieldMetadata :=
  (m.fields.find? typeName).getD []

/-- Records the metadata of a type. -/
def setType (m : Metadata) (typeName : String) (x : TypeMetadata) : Metadata :=
  { m with types := m.types.set typeName x }

/-- Records the metadata of a member. -/
def setField (m : Metadata) (typeName fieldName : String) (x : FieldMetadata) : Metadata :=
  { m with fields := m.fields.update typeName [] (·.set fieldName x) }

end Metadata

/-- The directives of a name, in order (`find_directives`). -/
def directivesNamed (ds : List Directive) (name : String) : List Directive :=
  ds.filter (·.name == name)

/-- The selections of a federation directive: its first argument named `fields`, if that is a
string that reads as a field set. A field set with a syntax error is dropped; a fault met while
reading it stops the annotation. It is read at a height of the call stack
(`parse_directive_selections`). -/
def directiveSelections (d : Directive) (height : Nat) : Except Fault (Option (List Selection)) :=
  match d.arguments.find? (·.1 == "fields") with
  | some (_, .string s _) =>
    match FieldSet.parse s (height + 1) with
    | .ok selections => pure (some selections)
    | .error (.malformed _) => pure none
    | .error (.fault f) => throw f
  | _ => pure none

/-- The selections of the first directive of a name, if there is one and it is usable
(`_first_directive_selections`). -/
def firstSelections (ds : List Directive) (name : String) (height : Nat) :
    Except Fault (Option (List Selection)) :=
  match directivesNamed ds name with
  | [] => pure none
  | d :: _ => directiveSelections d (height + 1)

/-- The directives on a type's base declaration. -/
def Schema.NamedType.declaredDirectives (t : NamedType) : List Directive :=
  match t.node with
  | some d => d.directives
  | none => []

/-- The directives on a field's declaration. -/
def Schema.Field.declaredDirectives (f : Field) : List Directive :=
  match f.node with
  | some d => d.directives
  | none => []

/-- The entity keys of an object type: its usable `@key` directives, in order (`_entity_keys`). -/
def entityKeys (t : NamedType) (height : Nat) : Except Fault (List (List Selection)) :=
  (directivesNamed t.declaredDirectives "key").filterMapM (directiveSelections · (height + 1))

/-- Records a field of an object type if it was claimed or has a usable `@provides`. -/
def annotateObjectField (typeName : String) (r : Ownership) (height : Nat) (m : Metadata)
    (entry : String × Field) : Except Fault Metadata := do
  let (fieldName, f) := entry
  let service := r.extensionFieldOwners.find? fieldName
  let provides ← firstSelections f.declaredDirectives "provides" (height + 1)
  let requires ← if service.isSome then firstSelections f.declaredDirectives "requires" (height + 1)
    else pure none
  if service.isNone && provides.isNone then pure m
  else pure (m.setField typeName fieldName { serviceName := service, requires, provides })

/-- Records the fields of an object type that were claimed or have a usable `@provides`
(`_annotate_object_fields`). -/
def annotateObjectFields (m : Metadata) (typeName : String) (fields : Table Field)
    (r : Ownership) (height : Nat) : Except Fault Metadata :=
  fields.foldlM (annotateObjectField typeName r height) m

/-- Records the claimed members of an enum or input object that the type has
(`_annotate_extension_members`). -/
def annotateClaimedMembers (m : Metadata) (typeName : String) (members : List String)
    (r : Ownership) : Metadata :=
  r.extensionFieldOwners.foldl (fun m (member, service) =>
    if members.contains member then m.setField typeName member { serviceName := some service }
    else m)
    m

/-- Records the metadata of a type of the ledger, if the schema has it, worked out at a height of
the call stack. -/
def annotateType (schema : Schema) (height : Nat) (m : Metadata) (entry : String × Ownership) :
    Except Fault Metadata :=
  let (name, r) := entry
  match schema.type? name with
  | none => pure m
  | some t =>
    match t.shape with
    | .object _ fields => do
      let keys ← entityKeys t (height + 1)
      annotateObjectFields (m.setType name { serviceName := r.owningService, keys }) name fields r
        (height + 1)
    | .enum values =>
      pure (annotateClaimedMembers (m.setType name { serviceName := r.owningService }) name
        values.keys r)
    | .inputObject fields =>
      pure (annotateClaimedMembers (m.setType name { serviceName := r.owningService }) name
        fields.keys r)
    | _ => pure (m.setType name { serviceName := r.owningService })

/-- The metadata of a composed schema, for every type of the ledger the schema has, worked out
at a height of the call stack. Reading the field sets of the federation directives can meet a
fault, which stops it (`annotate_schema`). -/
def annotate (schema : Schema) (ownership : Table Ownership) (height : Nat) :
    Except Fault Metadata :=
  ownership.foldlM (annotateType schema height) {}

/-- Entries sorted by name. -/
def sortByName {α : Type} (entries : List (String × α)) : List (String × α) :=
  entries.mergeSort fun a b => decide (a.1 ≤ b.1)

/-- The report entry of a member (`_field_entry`). -/
def FieldMetadata.toJson (x : FieldMetadata) : JsonValue :=
  .obj [("serviceName", .ofOption x.serviceName),
        ("requires", .ofOption (x.requires.map FieldSet.print)),
        ("provides", .ofOption (x.provides.map FieldSet.print))]

/-- The metadata report: types sorted by name, each with its owner, printed keys and members
sorted by name; then the validation errors. -/
def Metadata.report (m : Metadata) (errors : List String) : JsonValue :=
  let types := (sortByName m.types).map fun (n, t) =>
    (n, JsonValue.obj
      [("serviceName", .ofOption t.serviceName),
       ("keys", .ofStrings (t.keys.map FieldSet.print)),
       ("fields", .obj ((sortByName (m.fieldsOf n)).map fun (f, x) => (f, x.toJson)))])
  .obj [("types", .obj types), ("errors", .ofStrings errors)]

/-- One line of the owner listing: a type or a member of it, with its owner. -/
structure OwnerEntry where
  typeName : String
  member : Option String
  owner : Option String
  deriving Repr, Inhabited

/-- The owners of every type of a schema whose name does not start with two underscores, in
type map order, each followed by the owners of its fields or enum values. -/
def Metadata.owners (m : Metadata) (schema : Schema) : List OwnerEntry :=
  schema.types.flatMap fun (n, t) =>
    if n.startsWith "__" then []
    else ⟨n, none, m.typeOwner n⟩ :: t.memberNames.map fun f => ⟨n, some f, m.fieldOwner n f⟩

end Federation
