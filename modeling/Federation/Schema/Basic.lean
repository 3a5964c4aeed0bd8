import Federation.Syntax.Ast
import Federation.Data.Table

/-!
# Schemas

A schema is a table of named types, in the order in which a schema lists them, together with
its directives and its root operation types. A named type is complete here: its fields,
interfaces, union members, enum values and input fields are known, and every type reference
names a type by its name.

Each member keeps the declaration it came from, so that directives written on it can be read
later. An argument or input field keeps its default value as an input value: the literal read
against the argument's type, or nothing when there is no default or the literal does not fit.
-/

namespace Federation.Schema

open Syntax

/-- The value of an input position: what a default literal denotes once read against its
type. Enum values are held by name. -/
inductive InputValue where
  | null
  | boolean (b : Bool)
  | int (n : Int)
  | float (x : Float)
  | string (s : String)
  | list (items : List InputValue)
  | object (fields : List (String × InputValue))
  deriving Repr, Inhabited

/-- An argument of a field or directive, or a field of an input object. -/
structure InputField where
  name : String
  description : Option String := none
  type : TypeRef
  default : Option InputValue := none
  deprecation : Option String := none
  node : Option InputValueDefinition := none
  deriving Repr, Inhabited

/-- A field of an object or interface type. -/
structure Field where
  name : String
  description : Option String := none
  type : TypeRef
  arguments : Table InputField := []
  deprecation : Option String := none
  node : Option FieldDefinition := none
  deriving Repr, Inhabited

/-- A value of an enum type. -/
structure EnumValue where
  name : String
  description : Option String := none
  deprecation : Option String := none
  node : Option EnumValueDefinition := none
  deriving Repr, Inhabited

/-- The members of a named type, by kind. -/
inductive TypeShape where
  | scalar (specifiedBy : Option String)
  | object (interfaces : List String) (fields : Table Field)
  | interface (interfaces : List String) (fields : Table Field)
  | union (members : List String)
  | enum (values : Table EnumValue)
  | inputObject (fields : Table InputField)
  deriving Repr, Inhabited

/-- The kind of a shape. -/
def TypeShape.kind : TypeShape → TypeKind
  | .scalar _ => .scalar
  | .object .. => .object
  | .interface .. => .interface
  | .union _ => .union
  | .enum _ => .enum
  | .inputObject _ => .inputObject

/-- A named type with its members, its base declaration and the extensions applied to it. -/
structure NamedType where
  name : String
  description : Option String := none
  shape : TypeShape
  node : Option TypeDeclaration := none
  extensionNodes : List TypeDeclaration := []
  deriving Repr, Inhabited

namespace NamedType

/-- The kind of a named type. -/
def kind (t : NamedType) : TypeKind := t.shape.kind

/-- The fields of an object or interface type. -/
def fields (t : NamedType) : Table Field :=
  match t.shape with
  | .object _ fs | .interface _ fs => fs
  | _ => []

/-- The interfaces an object or interface type implements. -/
def interfaces (t : NamedType) : List String :=
  match t.shape with
  | .object is _ | .interface is _ => is
  | _ => []

/-- The fields of an input object type. -/
def inputFields (t : NamedType) : Table InputField :=
  match t.shape with
  | .inputObject fs => fs
  | _ => []

/-- The values of an enum type. -/
def values (t : NamedType) : Table EnumValue :=
  match t.shape with
  | .enum vs => vs
  | _ => []

/-- The member names of a type: fields of objects, interfaces and input objects, values of
enums. -/
def memberNames (t : NamedType) : List String :=
  match t.shape with
  | .object _ fs | .interface _ fs => fs.keys
  | .inputObject fs => fs.keys
  | .enum vs => vs.keys
  | .scalar _ | .union _ => []

end NamedType

/-- The places a directive may be used. -/
inductive DirectiveLocation where
  | query | mutation | subscription | field | fragmentDefinition | fragmentSpread
  | inlineFragment | variableDefinition | schema | scalar | object | fieldDefinition
  | argumentDefinition | interface | union | enum | enumValue | inputObject
  | inputFieldDefinition
  deriving Repr, BEq, DecidableEq, Inhabited

/-- The name of a location as written in a directive definition. -/
def DirectiveLocation.name : DirectiveLocation → String
  | .query => "QUERY"
  | .mutation => "MUTATION"
  | .subscription => "SUBSCRIPTION"
  | .field => "FIELD"
  | .fragmentDefinition => "FRAGMENT_DEFINITION"
  | .fragmentSpread => "FRAGMENT_SPREAD"
  | .inlineFragment => "INLINE_FRAGMENT"
  | .variableDefinition => "VARIABLE_DEFINITION"
  | .schema => "SCHEMA"
  | .scalar => "SCALAR"
  | .object => "OBJECT"
  | .fieldDefinition => "FIELD_DEFINITION"
  | .argumentDefinition => "ARGUMENT_DEFINITION"
  | .interface => "INTERFACE"
  | .union => "UNION"
  | .enum => "ENUM"
  | .enumValue => "ENUM_VALUE"
  | .inputObject => "INPUT_OBJECT"
  | .inputFieldDefinition => "INPUT_FIELD_DEFINITION"

/-- How a location is named in messages. -/
def DirectiveLocation.phrase : DirectiveLocation → String
  | .query => "query"
  | .mutation => "mutation"
  | .subscription => "subscription"
  | .field => "field"
  | .fragmentDefinition => "fragment definition"
  | .fragmentSpread => "fragment spread"
  | .inlineFragment => "inline fragment"
  | .variableDefinition => "variable definition"
  | .schema => "schema"
  | .scalar => "scalar"
  | .object => "object"
  | .fieldDefinition => "field definition"
  | .argumentDefinition => "argument definition"
  | .interface => "interface"
  | .union => "union"
  | .enum => "enum"
  | .enumValue => "enum value"
  | .inputObject => "input object"
  | .inputFieldDefinition => "input field definition"

/-- The location of a type declaration of a kind. -/
def DirectiveLocation.ofKind : TypeKind → DirectiveLocation
  | .scalar => .scalar
  | .object => .object
  | .interface => .interface
  | .union => .union
  | .enum => .enum
  | .inputObject => .inputObject

/-- A directive a schema knows. -/
structure DirectiveDefinition where
  name : String
  description : Option String := none
  arguments : Table InputField := []
  repeatable : Bool := false
  locations : List DirectiveLocation
  deriving Repr, Inhabited

/-- An argument is required when its type is non-null and it has no default. -/
def InputField.isRequired (a : InputField) : Bool :=
  match a.type, a.default with
  | .nonNull _, none => true
  | _, _ => false

end Federation.Schema

namespace Federation

/-- A schema: named types in order, directives, and the root operation types. -/
structure Schema where
  types : Table Schema.NamedType
  directives : List Schema.DirectiveDefinition
  query : Option String := none
  mutation : Option String := none
  subscription : Option String := none
  deriving Repr, Inhabited

end Federation

namespace Federation.Schema

/-- The type of a name in a schema. -/
def type? (s : Schema) (name : String) : Option NamedType := s.types.find? name

/-- The directive of a name in a schema. -/
def directive? (s : Schema) (name : String) : Option DirectiveDefinition :=
  s.directives.find? (·.name == name)

end Federation.Schema
