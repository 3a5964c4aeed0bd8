import Federation.Schema.Basic

/-!
# Built-in types and directives

The types every schema may use without declaring them: the five specified scalars and the
introspection types, whose names begin with two underscores. The directives every schema
knows: `@include`, `@skip`, `@deprecated` and `@specifiedBy`, and the four federation
directives `@key`, `@external`, `@requires` and `@provides`.

Built-in types are never extended and never printed.
-/

namespace Federation.Schema

open Syntax

/-- A reference to a named type. -/
def named (n : String) : TypeRef := .named n

/-- A non-null reference to a named type. -/
def required (n : String) : TypeRef := .nonNull (.named n)

/-- A non-null list of non-null references to a named type. -/
def requiredList (n : String) : TypeRef := .nonNull (.list (.nonNull (.named n)))

/-- A list of non-null references to a named type. -/
def optionalList (n : String) : TypeRef := .list (.nonNull (.named n))

/-- A field of a built-in type, without arguments. -/
def plainField (n : String) (t : TypeRef) : String × Field := (n, { name := n, type := t })

/-- A field of an introspection type that takes the `includeDeprecated` flag. -/
def flaggedField (n : String) (t : TypeRef) : String × Field :=
  (n, { name := n, type := t,
        arguments := [("includeDeprecated",
          { name := "includeDeprecated", type := named "Boolean", default := some (.boolean false) })] })

/-- The names of the specified scalars. -/
def specifiedScalarNames : List String := ["Int", "Float", "String", "Boolean", "ID"]

/-- The introspection types. -/
def introspectionTypes : List NamedType :=
  [ { name := "__Schema", shape := .object [] [
        plainField "description" (named "String"),
        plainField "types" (requiredList "__Type"),
        plainField "queryType" (required "__Type"),
        plainField "mutationType" (named "__Type"),
        plainField "subscriptionType" (named "__Type"),
        plainField "directives" (requiredList "__Directive")] },
    { name := "__Directive", shape := .object [] [
        plainField "name" (required "String"),
        plainField "description" (named "String"),
        plainField "isRepeatable" (required "Boolean"),
        plainField "locations" (requiredList "__DirectiveLocation"),
        flaggedField "args" (requiredList "__InputValue")] },
    { name := "__DirectiveLocation", shape := .enum
        (["QUERY", "MUTATION", "SUBSCRIPTION", "FIELD", "FRAGMENT_DEFINITION", "FRAGMENT_SPREAD",
          "INLINE_FRAGMENT", "VARIABLE_DEFINITION", "SCHEMA", "SCALAR", "OBJECT",
          "FIELD_DEFINITION", "ARGUMENT_DEFINITION", "INTERFACE", "UNION", "ENUM", "ENUM_VALUE",
          "INPUT_OBJECT", "INPUT_FIELD_DEFINITION"].map fun v => (v, { name := v })) },
    { name := "__Type", shape := .object [] [
        plainField "kind" (required "__TypeKind"),
        plainField "name" (named "String"),
        plainField "description" (named "String"),
        plainField "specifiedByURL" (named "String"),
        flaggedField "fields" (optionalList "__Field"),
        plainField "interfaces" (optionalList "__Type"),
        plainField "possibleTypes" (optionalList "__Type"),
        flaggedField "enumValues" (optionalList "__EnumValue"),
        flaggedField "inputFields" (optionalList "__InputValue"),
        plainField "ofType" (named "__Type")] },
    { name := "__Field", shape := .object [] [
        plainField "name" (required "String"),
        plainField "description" (named "String"),
        flaggedField "args" (requiredList "__InputValue"),
        plainField "type" (required "__Type"),
        plainField "isDeprecated" (required "Boolean"),
        plainField "deprecationReason" (named "String")] },
    { name := "__InputValue", shape := .object [] [
        plainField "name" (required "String"),
        plainField "description" (named "String"),
        plainField "type" (required "__Type"),
        plainField "defaultValue" (named "String"),
        plainField "isDeprecated" (required "Boolean"),
        plainField "deprecationReason" (named "String")] },
    { name := "__EnumValue", shape := .object [] [
        plainField "name" (required "String"),
        plainField "description" (named "String"),
        plainField "isDeprecated" (required "Boolean"),
        plainField "deprecationReason" (named "String")] },
    { name := "__TypeKind", shape := .enum
        (["SCALAR", "OBJECT", "INTERFACE", "UNION", "ENUM", "INPUT_OBJECT", "LIST",
          "NON_NULL"].map fun v => (v, { name := v })) } ]

/-- The names of the introspection types. -/
def introspectionNames : List String := introspectionTypes.map (·.name)

/-- The built-in types: the specified scalars, then the introspection types. -/
def standardTypes : List NamedType :=
  specifiedScalarNames.map (fun n => { name := n, shape := .scalar none }) ++ introspectionTypes

/-- The names of the built-in types. -/
def standardNames : List String := specifiedScalarNames ++ introspectionNames

/-- The built-in type of a name, if there is one. -/
def standardType? (n : String) : Option NamedType := standardTypes.find? (·.name == n)

/-- Whether a name is that of a built-in type. -/
def isStandardName (n : String) : Bool := standardNames.contains n

/-- The default reason of a deprecation. -/
def defaultDeprecationReason : String := "No longer supported"

/-- An argument of a built-in directive. -/
def directiveArgument (n : String) (t : TypeRef) (d : Option InputValue) : String × InputField :=
  (n, { name := n, type := t, default := d })

/-- The directive that marks a member as deprecated, with a reason. -/
def deprecatedDirective : DirectiveDefinition :=
  { name := "deprecated",
    arguments := [directiveArgument "reason" (named "String") (some (.string defaultDeprecationReason))],
    locations := [.fieldDefinition, .argumentDefinition, .inputFieldDefinition, .enumValue] }

/-- The directive that links a scalar to its specification. -/
def specifiedByDirective : DirectiveDefinition :=
  { name := "specifiedBy", arguments := [directiveArgument "url" (required "String") none],
    locations := [.scalar] }

/-- The directives of the GraphQL specification. -/
def specifiedDirectives : List DirectiveDefinition :=
  [ { name := "include", arguments := [directiveArgument "if" (required "Boolean") none],
      locations := [.field, .fragmentSpread, .inlineFragment] },
    { name := "skip", arguments := [directiveArgument "if" (required "Boolean") none],
      locations := [.field, .fragmentSpread, .inlineFragment] },
    deprecatedDirective, specifiedByDirective ]

/-- The names of the directives of the GraphQL specification. -/
def specifiedDirectiveNames : List String := specifiedDirectives.map (·.name)

/-- The `fields` argument the federation directives take. -/
def fieldsArgument : Table InputField := [directiveArgument "fields" (required "String") none]

/-- The federation directives. -/
def federationDirectives : List DirectiveDefinition :=
  [ { name := "key", description := some "Selection of fields that uniquely identifies an entity.",
      arguments := fieldsArgument, repeatable := true, locations := [.object] },
    { name := "external",
      description := some "Field declared only as a dependency; owned by another service.",
      locations := [.object, .fieldDefinition] },
    { name := "requires", description := some "External fields needed to resolve this field.",
      arguments := fieldsArgument, locations := [.fieldDefinition] },
    { name := "provides",
      description := some "Fields of the returned entity this service can resolve itself.",
      arguments := fieldsArgument, locations := [.fieldDefinition] } ]

/-- The directives every composed schema knows. -/
def compositionDirectives : List DirectiveDefinition := specifiedDirectives ++ federationDirectives

end Federation.Schema
