import Federation.Schema.Basic
import Federation.Schema.Builtin
import Federation.Schema.Suggestion
import Federation.Syntax.Printer

/-!
# Validation of type declarations

A document of type definitions and type extensions is checked against the schema it is about
to extend. The checks are the rules of the GraphQL specification for schema documents:

* a type is defined once, and not again when the schema already has it;
* an enum value, a field, or an argument of a field is declared once per type, and an extension
  does not declare again what the schema already has;
* every referenced type is known, unless it is a built-in type;
* every directive is known and allowed where it stands, a directive that is not repeatable
  stands once per place (once per type name across the document, for types), its arguments are
  known and given once, and its required arguments are given;
* an input object literal names each field once;
* an extension extends a type of its own kind.

The rules run together over the document in one walk, in document order. At each node the rules
that look at the node report in the order above; the node's parts are then walked: interfaces,
directives and members for objects and interfaces; directives, then members for the other kinds.
A directive's missing arguments are reported when the walk leaves it, after what its arguments
held.
-/

namespace Federation.Schema

open Syntax

/-- What a document is validated against: the schema it extends and the type definitions it
holds. -/
structure SdlContext where
  schema : Schema
  /-- The names of the document's type definitions, in order, repeats included. -/
  definedNames : List String
  /-- The kind of the last definition of each name the document defines. -/
  definedKinds : Table TypeKind

/-- The context of a document of definitions and extensions. -/
def SdlContext.ofDocument (schema : Schema) (defs : List Definition) : SdlContext :=
  let decls := defs.filterMap fun | .type d => some d | _ => none
  { schema, definedNames := decls.map (·.name),
    definedKinds := decls.foldl (fun t d => t.set d.name d.kind) [] }

/-- What the walk remembers from one type node to the next. -/
structure SdlMemory where
  typeNames : List String := []
  enumValues : Table (List String) := []
  fieldNames : Table (List String) := []
  typeDirectives : Table (List String) := []

/-- The names of a list, each once, in order of first occurrence, with how often it occurs. -/
def groupNames (names : List String) : List (String × Nat) :=
  names.foldl (fun acc n => Table.update acc n 0 (· + 1)) []

/-- The names that occur more than once, in order of first occurrence. -/
def repeatedNames (names : List String) : List String :=
  (groupNames names).filterMap fun (n, k) => if k > 1 then some n else none

/-- Reports a type definition whose name the schema or an earlier definition has. -/
def checkTypeName (ctx : SdlContext) (known : List String) (name : String) :
    List String × List String :=
  if (ctx.schema.type? name).isSome then
    (["Type '" ++ name ++ "' already exists in the schema. It cannot also be defined in this type definition."], known)
  else if known.contains name then
    (["There can be only one type named '" ++ name ++ "'."], known)
  else ([], known ++ [name])

/-- Reports enum values declared again, in the schema or earlier in the document. -/
def checkEnumValues (ctx : SdlContext) (memory : Table (List String)) (typeName : String)
    (values : List String) : List String × Table (List String) :=
  let existing : List String := match ctx.schema.type? typeName with
    | some t => match t.shape with | .enum vs => vs.keys | _ => []
    | none => []
  let (errors, seen) := values.foldl (fun (acc : List String × List String) v =>
      let (errors, seen) := acc
      if existing.contains v then
        (errors ++ ["Enum value '" ++ typeName ++ "." ++ v ++ "' already exists in the schema. It cannot also be defined in this type extension."], seen)
      else if seen.contains v then
        (errors ++ ["Enum value '" ++ typeName ++ "." ++ v ++ "' can only be defined once."], seen)
      else (errors, seen ++ [v]))
    ([], (memory.find? typeName).getD [])
  (errors, memory.set typeName seen)

/-- Reports fields declared again, in the schema or earlier in the document. -/
def checkFieldNames (ctx : SdlContext) (memory : Table (List String)) (typeName : String)
    (fields : List String) : List String × Table (List String) :=
  let existing : List String := match ctx.schema.type? typeName with
    | some t => match t.shape with
      | .object _ fs | .interface _ fs => fs.keys
      | .inputObject fs => fs.keys
      | _ => []
    | none => []
  let (errors, seen) := fields.foldl (fun (acc : List String × List String) f =>
      let (errors, seen) := acc
      if existing.contains f then
        (errors ++ ["Field '" ++ typeName ++ "." ++ f ++ "' already exists in the schema. It cannot also be defined in this type extension."], seen)
      else if seen.contains f then
        (errors ++ ["Field '" ++ typeName ++ "." ++ f ++ "' can only be defined once."], seen)
      else (errors, seen ++ [f]))
    ([], (memory.find? typeName).getD [])
  (errors, memory.set typeName seen)

/-- Reports arguments declared twice on one field. -/
def checkArgumentDefinitions (typeName : String) (fields : List FieldDefinition) : List String :=
  fields.flatMap fun f =>
    (repeatedNames (f.arguments.map (·.name))).map fun a =>
      "Argument '" ++ typeName ++ "." ++ f.name ++ "(" ++ a ++ ":)' can only be defined once."

/-- Whether a directive is known and not repeatable. -/
def SdlContext.isUniqueDirective (ctx : SdlContext) (name : String) : Bool :=
  match ctx.schema.directive? name with
  | some d => !d.repeatable
  | none => false

/-- Reports directives that are not repeatable and stand again where some were seen. -/
def checkUniqueDirectives (ctx : SdlContext) (seen : List String) (directives : List Directive) :
    List String × List String :=
  directives.foldl (fun (acc : List String × List String) d =>
      let (errors, seen) := acc
      if ctx.isUniqueDirective d.name then
        if seen.contains d.name then
          (errors ++ ["The directive '@" ++ d.name ++ "' can only be used once at this location."], seen)
        else (errors, seen ++ [d.name])
      else (errors, seen))
    ([], seen)

/-- Reports an extension of a type of another kind, or of a type that exists nowhere. -/
def checkExtension (ctx : SdlContext) (d : TypeDeclaration) : List String :=
  let expected := match ctx.definedKinds.find? d.name with
    | some k => some k
    | none => (ctx.schema.type? d.name).map NamedType.kind
  match expected with
  | some k =>
    if k == d.kind then []
    else ["Cannot extend non-" ++ d.kind.phrase ++ " type '" ++ d.name ++ "'."]
  | none =>
    let names := ctx.definedKinds.keys ++ ctx.schema.types.keys
    ["Cannot extend type '" ++ d.name ++ "' because it is not defined." ++
      didYouMean (suggestionList d.name names)]

/-- Reports a reference to a type that is neither known nor built in. -/
def checkTypeRef (ctx : SdlContext) (t : TypeRef) : List String :=
  let n := t.baseName
  if ctx.schema.types.contains n || ctx.definedNames.contains n || isStandardName n then []
  else
    let names := standardNames ++ ctx.schema.types.keys ++ ctx.definedNames
    ["Unknown type '" ++ n ++ "'." ++ didYouMean (suggestionList n names)]

/-- Reports the fields an input object literal names twice, the outer ones before the inner
ones they contain. -/
def checkInputFields : Value → List String
  | .object fields => go [] fields
  | .list items => goList items
  | _ => []
where
  go : List String → List (String × Value) → List String
    | _, [] => []
    | seen, (n, v) :: rest =>
      (if seen.contains n then ["There can be only one input field named '" ++ n ++ "'."] else []) ++
        checkInputFields v ++ go (if seen.contains n then seen else seen ++ [n]) rest
  goList : List Value → List String
    | [] => []
    | v :: vs => checkInputFields v ++ goList vs

/-- Reports what is wrong with one directive at a location: unknown, misplaced, unknown or
repeated arguments, repeated input fields in its arguments, missing required arguments. -/
def checkDirective (ctx : SdlContext) (loc : DirectiveLocation) (d : Directive) : List String :=
  let definition := ctx.schema.directive? d.name
  let known := match definition with
    | some def_ =>
      if def_.locations.contains loc then []
      else ["Directive '@" ++ d.name ++ "' may not be used on " ++ loc.phrase ++ "."]
    | none => ["Unknown directive '@" ++ d.name ++ "'."]
  let argumentNames := match definition with
    | some def_ =>
      let names := def_.arguments.keys
      d.arguments.filterMap fun (a, _) =>
        if names.contains a then none
        else some ("Unknown argument '" ++ a ++ "' on directive '@" ++ d.name ++ "'." ++
          didYouMean (suggestionList a names))
    | none => []
  let repeated := (repeatedNames (d.arguments.map (·.1))).map fun a =>
    "There can be only one argument named '" ++ a ++ "'."
  let inner := d.arguments.flatMap fun (_, v) => checkInputFields v
  let given := d.arguments.map (·.1)
  let missing := match definition with
    | some def_ => def_.arguments.filterMap fun (a, arg) =>
      if arg.isRequired && !given.contains a then
        some ("Directive '@" ++ d.name ++ "' argument '" ++ a ++ "' of type '" ++ arg.type.print ++
          "' is required, but it was not provided.")
      else none
    | none => []
  known ++ argumentNames ++ repeated ++ inner ++ missing

/-- Reports what is wrong with the directives of a place, in order. -/
def checkDirectives (ctx : SdlContext) (loc : DirectiveLocation) (ds : List Directive) :
    List String :=
  ds.flatMap (checkDirective ctx loc)

/-- Reports what is wrong within an argument or input field definition. -/
def checkInputValue (ctx : SdlContext) (loc : DirectiveLocation) (v : InputValueDefinition) :
    List String :=
  (checkUniqueDirectives ctx [] v.directives).1 ++ checkTypeRef ctx v.type ++
    (match v.defaultValue with | some dv => checkInputFields dv | none => []) ++
    checkDirectives ctx loc v.directives

/-- Reports what is wrong within a field definition. -/
def checkField (ctx : SdlContext) (f : FieldDefinition) : List String :=
  (checkUniqueDirectives ctx [] f.directives).1 ++
    f.arguments.flatMap (checkInputValue ctx .argumentDefinition) ++
    checkTypeRef ctx f.type ++ checkDirectives ctx .fieldDefinition f.directives

/-- Reports what is wrong within the parts of a type declaration. -/
def checkParts (ctx : SdlContext) (extension : Bool) (d : TypeDeclaration) : List String :=
  let here := DirectiveLocation.ofKind d.kind
  let onType := checkDirectives ctx here d.directives
  match d.body with
  | .scalar => onType
  | .object is fs | .interface is fs =>
    is.flatMap (fun i => checkTypeRef ctx (.named i)) ++ onType ++ fs.flatMap (checkField ctx)
  | .union ms => onType ++ ms.flatMap (fun m => checkTypeRef ctx (.named m))
  | .enum vs =>
    onType ++ vs.flatMap fun v =>
      (checkUniqueDirectives ctx [] v.directives).1 ++ checkDirectives ctx .enumValue v.directives
  | .inputObject fs =>
    let loc := if extension then DirectiveLocation.argumentDefinition else .inputFieldDefinition
    onType ++ fs.flatMap (checkInputValue ctx loc)

/-- Reports what is wrong with one type definition or extension, given what earlier ones
declared; returns what later ones must know. -/
def checkDeclaration (ctx : SdlContext) (memory : SdlMemory) (extension : Bool)
    (d : TypeDeclaration) : List String × SdlMemory :=
  let (e1, typeNames) :=
    if extension then ([], memory.typeNames) else checkTypeName ctx memory.typeNames d.name
  let (e2, enumValues) := match d.body with
    | .enum vs => checkEnumValues ctx memory.enumValues d.name (vs.map EnumValueDefinition.name)
    | _ => ([], memory.enumValues)
  let (e3, fieldNames) := match d.body with
    | .object _ fs | .interface _ fs => checkFieldNames ctx memory.fieldNames d.name (fs.map FieldDefinition.name)
    | .inputObject fs => checkFieldNames ctx memory.fieldNames d.name (fs.map InputValueDefinition.name)
    | _ => ([], memory.fieldNames)
  let e4 := match d.body with
    | .object _ fs | .interface _ fs => checkArgumentDefinitions d.name fs
    | _ => []
  let (e5, seen) := checkUniqueDirectives ctx ((memory.typeDirectives.find? d.name).getD []) d.directives
  let e6 := if extension then checkExtension ctx d else []
  (e1 ++ e2 ++ e3 ++ e4 ++ e5 ++ e6 ++ checkParts ctx extension d,
    { typeNames, enumValues, fieldNames,
      typeDirectives := memory.typeDirectives.set d.name seen })

/-- The messages of every rule broken by a document of type declarations, in the order the
walk meets them. Definitions of other kinds are not checked (graphql-core `validate_sdl`). -/
def validateDeclarations (schema : Schema) (defs : List Definition) : List String :=
  let ctx := SdlContext.ofDocument schema defs
  let step (acc : List String × SdlMemory) (def_ : Definition) : List String × SdlMemory :=
    let (errors, memory) := acc
    match def_ with
    | .type d => let (e, m) := checkDeclaration ctx memory false d; (errors ++ e, m)
    | .typeExtension d => let (e, m) := checkDeclaration ctx memory true d; (errors ++ e, m)
    | _ => acc
  (defs.foldl step ([], {})).1

end Federation.Schema
