import Federation.Schema.Literal
import Federation.Schema.Builtin
import Federation.Syntax.Printer

/-!
# Building schemas from declarations

A schema is extended by a document of type definitions and type extensions. Every type of the
schema, and every type the document defines, becomes a draft: built-in types stay as they are,
and a definition of a built-in name yields the built-in type. A later definition of a name
replaces an earlier one but keeps its place.

Scalars and enums are complete at once: their values and their specification links are read
when the draft is made. The members of objects, interfaces, unions and input objects are built
only when the type is first needed, in the order the schema lists its types; a member that
refers to a type the schema does not have fails then, with a message that names the type whose
members could not be built. The default value of an argument or input field is read against
its type; reading it against an input object needs that type's fields, which are built first.

The types of a schema are listed in the order the type map is walked: the given types in order,
each followed by the built-in types first reached from it, then the root types, the types of
the directives' arguments, and the introspection types.
-/

namespace Federation.Schema

open Syntax

/-- A type of a schema under construction. -/
inductive Draft where
  /-- A type whose members are all known. -/
  | complete (t : NamedType)
  /-- A type whose members are those of `base` and those that `adds` declare; these are built
  when the type is first needed. -/
  | pending (base : NamedType) (adds : List TypeDeclaration)
  deriving Inhabited

/-- The type a draft starts from. -/
def Draft.base : Draft → NamedType
  | .complete t | .pending t _ => t

/-- The shape of a kind with no members. -/
def TypeShape.empty : TypeKind → TypeShape
  | .scalar => .scalar none
  | .object => .object [] []
  | .interface => .interface [] []
  | .union => .union []
  | .enum => .enum []
  | .inputObject => .inputObject []

/-- A literal read against a type made of built-in scalars; nothing when it does not fit. -/
def readStandard : TypeRef → Value → Option InputValue
  | .nonNull t, v => match v with
    | .null => none
    | _ => readStandard t v
  | .list t, v => match v with
    | .null => some .null
    | .list items => (items.mapM (readStandard t)).map .list
    | _ => (readStandard t v).map fun x => .list [x]
  | .named n, v => match v with
    | .null => some .null
    | _ => readScalar n v

/-- An error about a directive's arguments, located at an offset of the directive's source when
the directive was read from one: its message is followed by the excerpt of the source there.
Writing the excerpt can meet a fault. -/
def argumentError (site : Option DirectiveSite) (offset : DirectiveSite → Nat) (message : String) :
    SchemaError :=
  match site with
  | none => .invalidArgument message
  | some s =>
    let body := s.source.toList
    match excerpt requestName body (locate body (offset s)) with
    | .ok text => .invalidArgument (message ++ "\n\n" ++ text)
    | .error f => .fault f

/-- The values of a directive's arguments where it is applied: each given argument read against
its type (the last one given of a name counts), each missing one its default. An error about a
missing argument points at the directive, one about a given argument at its value
(graphql-core `get_directive_values`). -/
def argumentValues (def_ : DirectiveDefinition) (d : Directive) :
    Except SchemaError (Table InputValue) :=
  let starts := match d.site with
    | some s => s.valueStarts
    | none => []
  let given := (d.arguments.zipIdx.map fun ((n, v), i) => (n, v, i)).reverse
  def_.arguments.foldlM (fun (acc : Table InputValue) (entry : String × InputField) =>
    let (name, arg) := entry
    match given.find? (·.1 == name) with
    | none =>
      match arg.default, arg.type with
      | some v, _ => pure (acc.set name v)
      | none, .nonNull _ =>
        throw (argumentError d.site (·.start) ("Argument '" ++ name ++ "' of required type '" ++
          arg.type.print ++ "' was not provided."))
      | none, _ => pure acc
    | some (_, v, i) =>
      let atValue : DirectiveSite → Nat := fun _ => starts.getD i 0
      match v, arg.type with
      | .null, .nonNull _ =>
        throw (argumentError d.site atValue ("Argument '" ++ name ++ "' of non-null type '" ++
          arg.type.print ++ "' must not be null."))
      | _, _ =>
        match readStandard arg.type v with
        | some x => pure (acc.set name x)
        | none => throw (argumentError d.site atValue
            ("Argument '" ++ name ++ "' has invalid value " ++ v.print ++ ".")))
    []

/-- The deprecation reason a node's first `@deprecated` gives; a null reason is none. -/
def deprecationOf (ds : List Directive) : Except SchemaError (Option String) :=
  match ds.find? (·.name == "deprecated") with
  | none => pure none
  | some d => do
    let args ← argumentValues deprecatedDirective d
    pure (match args.find? "reason" with
      | some (.string s) => some s
      | _ => none)

/-- The specification link a node's first `@specifiedBy` gives. -/
def specifiedByOf (ds : List Directive) : Except SchemaError (Option String) :=
  match ds.find? (·.name == "specifiedBy") with
  | none => pure none
  | some d => do
    let args ← argumentValues specifiedByDirective d
    pure (match args.find? "url" with
      | some (.string s) => some s
      | _ => none)

/-- The enum values declarations list, a later value of a name replacing an earlier one. -/
def buildEnumValues (nodes : List TypeDeclaration) : Except SchemaError (Table EnumValue) :=
  nodes.foldlM (fun (acc : Table EnumValue) (d : TypeDeclaration) =>
    match d.body with
    | .enum vs => vs.foldlM (fun (acc : Table EnumValue) (v : EnumValueDefinition) => do
        let dep ← deprecationOf v.directives
        pure (acc.set v.name
          { name := v.name, description := v.description, deprecation := dep, node := some v }))
        acc
    | _ => pure acc)
    []

/-- The draft of a type a document defines, with the extensions the document gives it. -/
def draftOfDefinition (d : TypeDeclaration) (exts : List TypeDeclaration) :
    Except SchemaError Draft :=
  match standardType? d.name with
  | some t => pure (.complete t)
  | none =>
    let base : NamedType :=
      { name := d.name, description := d.description, shape := TypeShape.empty d.kind,
        node := some d, extensionNodes := exts }
    match d.kind with
    | .scalar => do
      let url ← specifiedByOf d.directives
      pure (.complete { base with shape := .scalar url })
    | .enum => do
      let values ← buildEnumValues (d :: exts)
      pure (.complete { base with shape := .enum values })
    | _ => pure (.pending base (d :: exts))

/-- The draft of a type the schema has, with the extensions the document gives it. Built-in
types are never extended. A non-empty link of an extension replaces a scalar's link. The
members of an object, interface or input object are taken over again even when nothing extends
it, so that the types they refer to are resolved again. -/
def draftOfExisting (t : NamedType) (exts : List TypeDeclaration) : Except SchemaError Draft :=
  if isStandardName t.name then pure (.complete t) else
  let t := { t with extensionNodes := t.extensionNodes ++ exts }
  match t.shape with
  | .scalar url => do
    let url ← exts.foldlM (fun (u : Option String) (e : TypeDeclaration) => do
      let x ← specifiedByOf e.directives
      pure (match x with
        | some s => if s.isEmpty then u else some s
        | none => u))
      url
    pure (.complete { t with shape := .scalar url })
  | .enum vs => do
    let added ← buildEnumValues exts
    pure (.complete { t with shape := .enum (added.foldl (fun acc (n, v) => acc.set n v) vs) })
  | .union _ => pure (if exts.isEmpty then .complete t else .pending t exts)
  | _ => pure (.pending t exts)

/-- The drafts of a schema extended by type definitions and extensions by name: the schema's
types in order, then the defined ones. -/
def draftTypes (schema : Schema) (defs : List TypeDeclaration)
    (extensions : Table (List TypeDeclaration)) : Except SchemaError (Table Draft) := do
  let existing ← schema.types.foldlM (fun (acc : Table Draft) (entry : String × NamedType) => do
      let d ← draftOfExisting entry.2 ((extensions.find? entry.1).getD [])
      pure (acc.set entry.1 d))
    []
  defs.foldlM (fun (acc : Table Draft) (d : TypeDeclaration) => do
      let draft ← draftOfDefinition d ((extensions.find? d.name).getD [])
      pure (acc.set d.name draft))
    existing

/-- What building members remembers: the fields of input objects built so far. -/
structure BuildState where
  inputFields : Table (Table InputField) := []

/-- Building members: it may fail, and it remembers input fields once built. -/
abbrev BuildM := StateT BuildState (Except SchemaError)

/-- Runs a step, naming where it failed in front of its message. -/
def within {α : Type} (pre : String) (act : BuildM α) : BuildM α :=
  tryCatch act fun e => throw (e.within pre)

/-- Runs a check that cannot touch what building remembers. -/
def lift {α : Type} (act : Except SchemaError α) : BuildM α :=
  match act with
  | .ok a => pure a
  | .error e => throw e

/-- The failure of building members nested deeper than the call stack allows. -/
def recursionError : SchemaError := .mismatch (Fault.message .tooDeep)

/-- A referenced type: built-in types first, then the drafts. -/
def lookupDraft (drafts : Table Draft) (n : String) : Option Draft :=
  match standardType? n with
  | some t => some (.complete t)
  | none => drafts.find? n

/-- The reason building gives for a reference to a type that does not exist. -/
def unknownTypeMessage (n : String) : String := "Unknown type: '" ++ n ++ "'."

/-- The reason building gives for a default read against a type that takes no input. -/
def unexpectedInputMessage (n : String) : String := "Unexpected input type: " ++ n ++ "."

/-- Fails unless a referenced type exists. -/
def requireType (drafts : Table Draft) (n : String) : BuildM Unit :=
  if (lookupDraft drafts n).isSome then pure ()
  else throw (.mismatch (unknownTypeMessage n))

/-- The height of the call stack that resolving a type reference reaches from a frame at a
height: each wrapper takes one more frame on the way down. A name is looked up one frame above
the innermost wrapper's frame; a name that is not found fails one frame above that, where its
error is made. A name that is found is wrapped on the way back up, and making the innermost
wrapper climbs three frames above the frame that asked for it. -/
def typeReach (height : Nat) (type : TypeRef) (known : Bool) : Nat :=
  let wrappers := type.size - 1
  if !known then height + wrappers + 2
  else if wrappers == 0 then height + 1
  else height + wrappers + 3

/-- Resolves the type of a member from a frame at a height of the call stack: it fails when
that climbs past the limit, and then when the name it ends in is not a type. -/
def resolveType (drafts : Table Draft) (height : Nat) (type : TypeRef) : BuildM Unit :=
  let known := (lookupDraft drafts type.baseName).isSome
  if typeReach height type known > stackLimit then throw recursionError
  else requireType drafts type.baseName

/-- Resolves again, from a frame at a height of the call stack, the type of a member a type
already has; it fails only when that climbs past the limit. -/
def reresolveType (height : Nat) (type : TypeRef) : BuildM Unit :=
  if typeReach height type true > stackLimit then throw recursionError else pure ()

/-- Reads literals one after another; nothing as soon as one does not fit. -/
def readAll (read : Value → BuildM (Option InputValue)) :
    List Value → BuildM (Option (List InputValue))
  | [] => pure (some [])
  | v :: vs => do
    match ← read v with
    | none => pure none
    | some x =>
      match ← readAll read vs with
      | none => pure none
      | some xs => pure (some (x :: xs))

/-- Reads the fields of an input object literal against the fields of its type, in the type's
order: a missing field takes its default, or is left out, or, when it is required, makes the
literal not fit. -/
def readFields (read : TypeRef → Value → BuildM (Option InputValue)) (given : Table Value) :
    Table InputValue → List (String × InputField) → BuildM (Option (Table InputValue))
  | acc, [] => pure (some acc)
  | acc, (n, f) :: rest =>
    match given.find? n with
    | none =>
      match f.default, f.type with
      | some v, _ => readFields read given (acc.set n v) rest
      | none, .nonNull _ => pure none
      | none, _ => readFields read given acc rest
    | some v => do
      match ← read f.type v with
      | none => pure none
      | some x => readFields read given (acc.set n x) rest

/-- An argument or input field of a declaration: its type is resolved from a frame at a height
of the call stack and must exist, its default is read against it, then its deprecation is
read. -/
def buildInputValue (drafts : Table Draft) (typeHeight : Nat)
    (read : TypeRef → Value → BuildM (Option InputValue)) (iv : InputValueDefinition) :
    BuildM InputField := do
  resolveType drafts typeHeight iv.type
  let dflt ← match iv.defaultValue with
    | none => pure none
    | some v => read iv.type v
  let dep ← lift (deprecationOf iv.directives)
  pure { name := iv.name, description := iv.description, type := iv.type, default := dflt,
         deprecation := dep, node := some iv }

/-- The input fields of a type: those it has, then those its declarations add, a later field
of a name replacing an earlier one. The types of all of them are resolved from a frame at a
height of the call stack. -/
def buildInputFields (drafts : Table Draft) (typeHeight : Nat)
    (read : TypeRef → Value → BuildM (Option InputValue))
    (start : Table InputField) (adds : List TypeDeclaration) : BuildM (Table InputField) := do
  start.forM fun (_, f) => reresolveType typeHeight f.type
  adds.foldlM (fun (acc : Table InputField) (d : TypeDeclaration) =>
    match d.body with
    | .inputObject fs => fs.foldlM (fun (acc : Table InputField) (iv : InputValueDefinition) => do
        let f ← buildInputValue drafts typeHeight read iv
        pure (acc.set iv.name f))
        acc
    | _ => pure acc)
    start

/-- The entries of an object literal, a later entry of a name replacing an earlier one. -/
def lastEntries (fields : List (String × Value)) : Table Value :=
  fields.foldl (fun acc (n, v) => acc.set n v) []

mutual

/-- A literal read against a type, at a height of the call stack; nothing when it does not
fit. A null fits every type but a non-null one; a single item fits a list type as a one-item
list; an object fits an input object when its fields do; an enum value fits an enum that has
it. Reading against an output type fails. Each non-null or list wrapper and each field of an
object is read one frame higher; the fields of an input object are built two frames higher. -/
def readDefault (drafts : Table Draft) : Nat → Nat → TypeRef → Value → BuildM (Option InputValue)
  | 0, _, _, _ => throw recursionError
  | fuel + 1, height, type, v =>
    if height + 1 > stackLimit then throw recursionError else
    match type, v with
    | _, .variable _ => pure none
    | .nonNull t, v =>
      match v with
      | .null => pure none
      | _ => readDefault drafts fuel (height + 1) t v
    | _, .null => pure (some .null)
    | .list t, v =>
      match v with
      | .list items => do
        let r ← readAll (readDefault drafts fuel (height + 1) t) items
        pure (r.map .list)
      | _ => do
        let r ← readDefault drafts fuel (height + 1) t v
        pure (r.map fun x => .list [x])
    | .named n, v =>
      match lookupDraft drafts n with
      | none => pure none
      | some d =>
        match d.base.shape with
        | .inputObject _ =>
          match v with
          | .object given => do
            let fields ← inputFieldsOf drafts fuel (height + 2) n
            let r ← readFields (readDefault drafts fuel (height + 1)) (lastEntries given) [] fields
            pure (r.map .object)
          | _ => pure none
        | .enum vs => pure (readEnum vs.keys v)
        | .scalar _ => pure (readScalar n v)
        | _ => throw (.mismatch (unexpectedInputMessage n))

/-- The input fields of an input object, built once when first needed, at a height of the call
stack. Building resolves each field's type five frames higher and reads its default four
frames higher; a build that would pass the height limit fails, inside the build when it has
started. -/
def inputFieldsOf (drafts : Table Draft) : Nat → Nat → String → BuildM (Table InputField)
  | 0, _, _ => throw recursionError
  | fuel + 1, height, n => do
    let st ← get
    match st.inputFields.find? n with
    | some fs => pure fs
    | none =>
      match lookupDraft drafts n with
      | some (.pending base adds) =>
        if height > stackLimit then throw recursionError
        let fs ← within (n ++ " fields cannot be resolved. ")
          (buildInputFields drafts (height + 5) (readDefault drafts fuel (height + 4))
            base.inputFields adds)
        modify fun s => { s with inputFields := s.inputFields.set n fs }
        pure fs
      | some (.complete t) => pure t.inputFields
      | none => pure []

end

/-- A field of a declaration, built from a frame at a height of the call stack: its type is
resolved from there and must exist; then its arguments are built, their types resolved one
frame higher and their defaults read from there; then its deprecation is read. -/
def buildField (drafts : Table Draft) (fuel height : Nat) (f : FieldDefinition) :
    BuildM Field := do
  resolveType drafts height f.type
  let args ← f.arguments.foldlM (fun (acc : Table InputField) (a : InputValueDefinition) => do
      let x ← buildInputValue drafts (height + 1) (readDefault drafts fuel height) a
      pure (acc.set a.name x))
    []
  let dep ← lift (deprecationOf f.directives)
  pure { name := f.name, description := f.description, type := f.type, arguments := args,
         deprecation := dep, node := some f }

/-- The fields of an object or interface: those it has, then those its declarations add, built
from a frame at a height of the call stack. The types of the fields it has are resolved again
one frame higher, and those of their arguments three frames higher. -/
def buildFields (drafts : Table Draft) (fuel height : Nat) (start : Table Field)
    (adds : List TypeDeclaration) : BuildM (Table Field) := do
  start.forM fun (_, f) => do
    reresolveType (height + 1) f.type
    f.arguments.forM fun (_, a) => reresolveType (height + 3) a.type
  adds.foldlM (fun (acc : Table Field) (d : TypeDeclaration) =>
    match d.body with
    | .object _ fs | .interface _ fs => fs.foldlM (fun (acc : Table Field) (f : FieldDefinition) => do
        let x ← buildField drafts fuel height f
        pure (acc.set f.name x))
        acc
    | _ => pure acc)
    start

/-- Names a type has, then those its declarations add, each of which must exist. -/
def buildNames (drafts : Table Draft) (start : List String) (added : List String) :
    BuildM (List String) := do
  added.forM (requireType drafts)
  pure (start ++ added)

/-- The interfaces a declaration lists. -/
def TypeDeclaration.interfaceNames (d : TypeDeclaration) : List String :=
  match d.body with
  | .object is _ | .interface is _ => is
  | _ => []

/-- The member types a union declaration lists. -/
def TypeDeclaration.unionMembers (d : TypeDeclaration) : List String :=
  match d.body with
  | .union ms => ms
  | _ => []

/-- A draft made complete: interfaces first, then fields; or members; or input fields. The members
are built at a height of the call stack; the fields of objects and interfaces are built from a
frame five frames above it. -/
def completeDraft (drafts : Table Draft) (fuel height : Nat) : Draft → BuildM NamedType
  | .complete t => pure t
  | .pending base adds =>
    let n := base.name
    match base.shape with
    | .object is fs => do
      let is ← within (n ++ " interfaces cannot be resolved. ")
        (buildNames drafts is (adds.flatMap TypeDeclaration.interfaceNames))
      let fs ← within (n ++ " fields cannot be resolved. ")
        (buildFields drafts fuel (height + 5) fs adds)
      pure { base with shape := .object is fs }
    | .interface is fs => do
      let is ← within (n ++ " interfaces cannot be resolved. ")
        (buildNames drafts is (adds.flatMap TypeDeclaration.interfaceNames))
      let fs ← within (n ++ " fields cannot be resolved. ")
        (buildFields drafts fuel (height + 5) fs adds)
      pure { base with shape := .interface is fs }
    | .union ms => do
      let ms ← within (n ++ " types cannot be resolved. ")
        (buildNames drafts ms (adds.flatMap TypeDeclaration.unionMembers))
      pure { base with shape := .union ms }
    | .inputObject _ => do
      let fs ← inputFieldsOf drafts fuel height n
      pure { base with shape := .inputObject fs }
    | _ => pure base

/-- Completes every draft, in order, building members at a height of the call stack. Every
step of building members climbs the stack, so a budget of the stack's limit is never what ends
it. -/
def completeAll (drafts : Table Draft) (height : Nat) : Except SchemaError (Table NamedType) :=
  let run : BuildM (Table NamedType) :=
    drafts.foldlM (fun (acc : Table NamedType) (entry : String × Draft) => do
        let t ← completeDraft drafts (stackLimit + 1) height entry.2
        pure (acc.set entry.1 t))
      []
  (run.run {}).map (·.1)

/-- The names a type refers to, in the order the type map is walked: union members; interfaces,
then each field's type followed by its arguments' types; input field types. -/
def NamedType.references (t : NamedType) : List String :=
  match t.shape with
  | .union ms => ms
  | .object is fs | .interface is fs =>
    is ++ fs.flatMap fun (_, f) => f.type.baseName :: f.arguments.map (·.2.type.baseName)
  | .inputObject fs => fs.map (·.2.type.baseName)
  | .scalar _ | .enum _ => []

/-- Walks references depth first from a stack of names, adding each name not seen yet and then
the names it refers to. -/
def walkTypes (lookup : String → Option NamedType) :
    Nat → List String → List String × List String → List String × List String
  | 0, _, acc => acc
  | _, [], acc => acc
  | fuel + 1, n :: stack, (seen, order) =>
    if seen.contains n then walkTypes lookup fuel stack (seen, order)
    else
      let refs := match lookup n with
        | some t => t.references
        | none => []
      walkTypes lookup fuel (refs ++ stack) (seen ++ [n], order ++ [n])

/-- The order of a schema's types: each given type, followed by the types first reached from
it that are not given; then the types first reached from the extra names. -/
def typeOrder (lookup : String → Option NamedType) (initial extra : List String) (fuel : Nat) :
    List String :=
  let start := initial.foldl (fun (acc : List String × List String) n =>
      let refs := match lookup n with
        | some t => t.references
        | none => []
      walkTypes lookup fuel refs (acc.1, acc.2 ++ [n]))
    (initial, [])
  (walkTypes lookup fuel extra start).2

/-- A schema whose type map starts from some of the given complete types, in walking order:
the types it reaches but does not start from are looked up among all given ones, then among
the built-in types. -/
def assemble (types : Table NamedType) (initial : List String)
    (directives : List DirectiveDefinition) (query mutation subscription : Option String) : Schema :=
  let lookup := fun n => (types.find? n).orElse fun _ => standardType? n
  let extra := [query, mutation, subscription].filterMap id ++
    directives.flatMap (fun d => d.arguments.map (·.2.type.baseName)) ++ ["__Schema"]
  let fuel := (types.map fun (_, t) => t.references.length).foldr (· + ·) 0 +
    (standardTypes.map fun t => t.references.length).foldr (· + ·) 0 + initial.length +
    extra.length + 1
  let order := typeOrder lookup initial extra fuel
  { types := order.filterMap (fun n => (lookup n).map (n, ·)), directives, query, mutation,
    subscription }

/-- The schema with the given directives and nothing else: the types their arguments use and
the introspection types. -/
def ofDirectives (directives : List DirectiveDefinition) : Schema :=
  Schema.assemble [] [] directives none none none

/-- A schema extended by a document's type definitions and extensions. A document without
either leaves the schema as it is. An extension of a type the schema does not have and the
document does not define is ignored. Members are built at a height of the call stack
(graphql-core `extend_schema`). -/
def extend (schema : Schema) (doc : List Definition) (height : Nat) :
    Except SchemaError Schema := do
  let defs := doc.filterMap fun
    | .type d => some d
    | _ => none
  let exts := doc.filterMap fun
    | .typeExtension d => some d
    | _ => none
  if defs.isEmpty && exts.isEmpty then return schema
  let extensions := exts.foldl (fun m d => Table.update m d.name [] (· ++ [d])) []
  let drafts ← draftTypes schema defs extensions
  let types ← completeAll drafts height
  pure (Schema.assemble types types.keys schema.directives schema.query schema.mutation
    schema.subscription)

/-- Whether a type of a name is an object type. -/
def hasObject (s : Schema) (n : String) : Bool :=
  match s.type? n with
  | some t => t.kind == .object
  | none => false

/-- The root type a schema takes for an operation: the one it has, or else the object type of the
operation's conventional name, if it has one. -/
def rootFor (s : Schema) (current : Option String) (n : String) : Option String :=
  match current with
  | some r => some r
  | none => if s.hasObject n then some n else none

/-- The schema with object types named `Query`, `Mutation` and `Subscription` as the root types
it lacks. When one is added, the schema is assembled again from its types whose names do not
start with two underscores; those that are still referenced come back where they are first
reached (`with_root_operation_types`). -/
def withRootTypes (s : Schema) : Schema :=
  let query := s.rootFor s.query "Query"
  let mutation := s.rootFor s.mutation "Mutation"
  let subscription := s.rootFor s.subscription "Subscription"
  let added := (s.query.isNone && query.isSome) || (s.mutation.isNone && mutation.isSome) ||
    (s.subscription.isNone && subscription.isSome)
  if added then
    Schema.assemble s.types (s.types.keys.filter fun n => !n.startsWith "__") s.directives query
      mutation subscription
  else s

end Federation.Schema
