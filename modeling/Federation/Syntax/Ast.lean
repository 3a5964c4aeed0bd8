/-!
# Documents

The abstract syntax of GraphQL documents: input values, type references, directives,
selections, and the definitions of executable documents and of the type system. Names are kept
as strings. Of where nodes stood in their source, only a directive keeps a record: errors about
its arguments point into the source.

A type declaration is shared by type definitions and type extensions: an extension has no
description, and what it lists (fields, values, members) is what it adds.
-/

namespace Federation.Syntax

/-- An input value as written: a variable, a literal, a list or an object. Numbers keep their
text; a string remembers whether it was written as a block string. -/
inductive Value where
  | variable (name : String)
  | int (text : String)
  | float (text : String)
  | string (value : String) (block : Bool)
  | boolean (value : Bool)
  | null
  | enum (name : String)
  | list (items : List Value)
  | object (fields : List (String × Value))
  deriving Repr, Inhabited

/-- Where a directive stands in the text it was read from: the text, the offset of its at sign,
and the offsets where its arguments' values start, in written order. -/
structure DirectiveSite where
  source : String
  start : Nat
  valueStarts : List Nat
  deriving Repr, Inhabited

/-- A directive applied to a node, with its arguments in written order, and where it stands in
its source when it was read from one. -/
structure Directive where
  name : String
  arguments : List (String × Value)
  site : Option DirectiveSite := none
  deriving Repr, Inhabited

/-- A reference to a type: a named type, a list of a type, or a non-null type. -/
inductive TypeRef where
  | named (name : String)
  | list (item : TypeRef)
  | nonNull (inner : TypeRef)
  deriving Repr, BEq, DecidableEq, Inhabited

/-- The name a type reference ends in. -/
def TypeRef.baseName : TypeRef → String
  | .named n => n
  | .list t => t.baseName
  | .nonNull t => t.baseName

/-- The size of a literal, counting every value in it. -/
def Value.size : Value → Nat
  | .list items => 1 + sizeList items
  | .object fields => 1 + sizeFields fields
  | _ => 1
where
  sizeList : List Value → Nat
    | [] => 0
    | v :: vs => v.size + sizeList vs
  sizeFields : List (String × Value) → Nat
    | [] => 0
    | (_, v) :: fs => v.size + sizeFields fs

/-- The size of a type reference. -/
def TypeRef.size : TypeRef → Nat
  | .named _ => 1
  | .list t | .nonNull t => 1 + t.size

/-- A selection of an executable document. A field has a selection set only if it was given
one, and then a non-empty one. -/
inductive Selection where
  | field (fieldAlias : Option String) (name : String) (arguments : List (String × Value))
      (directives : List Directive) (selections : Option (List Selection))
  | fragmentSpread (name : String) (directives : List Directive)
  | inlineFragment (typeCondition : Option String) (directives : List Directive)
      (selections : List Selection)
  deriving Repr, Inhabited

/-- The three kinds of operation. -/
inductive OperationType where
  | query | mutation | subscription
  deriving Repr, BEq, DecidableEq, Inhabited

/-- A variable of an operation. -/
structure VariableDefinition where
  name : String
  type : TypeRef
  defaultValue : Option Value
  directives : List Directive
  deriving Repr, Inhabited

/-- An argument of a field or directive, or a field of an input object. -/
structure InputValueDefinition where
  description : Option String
  name : String
  type : TypeRef
  defaultValue : Option Value
  directives : List Directive
  deriving Repr, Inhabited

/-- A field of an object or interface type. -/
structure FieldDefinition where
  description : Option String
  name : String
  arguments : List InputValueDefinition
  type : TypeRef
  directives : List Directive
  deriving Repr, Inhabited

/-- A value of an enum type. -/
structure EnumValueDefinition where
  description : Option String
  name : String
  directives : List Directive
  deriving Repr, Inhabited

/-- The six kinds of named types. -/
inductive TypeKind where
  | scalar | object | interface | union | enum | inputObject
  deriving Repr, BEq, DecidableEq, Inhabited

/-- What a type declaration lists, by kind of type. -/
inductive TypeBody where
  | scalar
  | object (interfaces : List String) (fields : List FieldDefinition)
  | interface (interfaces : List String) (fields : List FieldDefinition)
  | union (members : List String)
  | enum (values : List EnumValueDefinition)
  | inputObject (fields : List InputValueDefinition)
  deriving Repr, Inhabited

/-- The kind of type a body declares. -/
def TypeBody.kind : TypeBody → TypeKind
  | .scalar => .scalar
  | .object .. => .object
  | .interface .. => .interface
  | .union _ => .union
  | .enum _ => .enum
  | .inputObject _ => .inputObject

/-- The empty body of a kind. -/
def TypeBody.empty : TypeKind → TypeBody
  | .scalar => .scalar
  | .object => .object [] []
  | .interface => .interface [] []
  | .union => .union []
  | .enum => .enum []
  | .inputObject => .inputObject []

/-- The keyword that introduces declarations of a kind. -/
def TypeKind.keyword : TypeKind → String
  | .scalar => "scalar"
  | .object => "type"
  | .interface => "interface"
  | .union => "union"
  | .enum => "enum"
  | .inputObject => "input"

/-- The kind of declaration a keyword introduces. -/
def TypeKind.ofKeyword? : String → Option TypeKind
  | "scalar" => some .scalar
  | "type" => some .object
  | "interface" => some .interface
  | "union" => some .union
  | "enum" => some .enum
  | "input" => some .inputObject
  | _ => none

/-- Whether an extension adds anything: directives or members. -/
def TypeBody.addsSomething (directives : List Directive) : TypeBody → Bool
  | .scalar => !directives.isEmpty
  | .object is fs | .interface is fs => !is.isEmpty || !directives.isEmpty || !fs.isEmpty
  | .union ms => !directives.isEmpty || !ms.isEmpty
  | .enum vs => !directives.isEmpty || !vs.isEmpty
  | .inputObject fs => !directives.isEmpty || !fs.isEmpty

/-- A type definition or extension: its name, directives and body. -/
structure TypeDeclaration where
  description : Option String
  name : String
  directives : List Directive
  body : TypeBody
  deriving Repr, Inhabited

/-- The kind of a declaration. -/
def TypeDeclaration.kind (d : TypeDeclaration) : TypeKind := d.body.kind

/-- The names of the members a declaration lists: fields of objects, interfaces and input
objects, values of enums; scalars and unions list none. -/
def TypeDeclaration.memberNames? (d : TypeDeclaration) : Option (List String) :=
  match d.body with
  | .object _ fs | .interface _ fs => some (fs.map (·.name))
  | .inputObject fs => some (fs.map (·.name))
  | .enum vs => some (vs.map (·.name))
  | .scalar | .union _ => none

/-- A definition of a document. -/
inductive Definition where
  | operation (operation : OperationType) (name : Option String)
      (variableDefinitions : List VariableDefinition) (directives : List Directive)
      (selections : List Selection)
  | fragment (name : String) (typeCondition : String) (directives : List Directive)
      (selections : List Selection)
  | schema (description : Option String) (directives : List Directive)
      (operationTypes : List (OperationType × String))
  | schemaExtension (directives : List Directive) (operationTypes : List (OperationType × String))
  | directive (description : Option String) (name : String)
      (arguments : List InputValueDefinition) (repeatable : Bool) (locations : List String)
  | type (declaration : TypeDeclaration)
  | typeExtension (declaration : TypeDeclaration)
  deriving Repr, Inhabited

/-- A parsed document: its definitions in order. -/
structure Document where
  definitions : List Definition
  deriving Repr, Inhabited

/-- The name of a kind of type in the names of definition kinds. -/
def TypeKind.tag : TypeKind → String
  | .scalar => "scalar"
  | .object => "object"
  | .interface => "interface"
  | .union => "union"
  | .enum => "enum"
  | .inputObject => "input_object"

/-- The name of a kind of type in the messages about extensions. -/
def TypeKind.phrase : TypeKind → String
  | .scalar => "scalar"
  | .object => "object"
  | .interface => "interface"
  | .union => "union"
  | .enum => "enum"
  | .inputObject => "input object"

/-- The name of a definition's kind, as the reports of ledgers and services give it. -/
def Definition.kindName : Definition → String
  | .operation .. => "operation_definition"
  | .fragment .. => "fragment_definition"
  | .schema .. => "schema_definition"
  | .schemaExtension .. => "schema_extension"
  | .directive .. => "directive_definition"
  | .type d => d.kind.tag ++ "_type_definition"
  | .typeExtension d => d.kind.tag ++ "_type_extension"

/-- The member names a definition lists, for type definitions and extensions. -/
def Definition.memberNames? : Definition → Option (List String)
  | .type d | .typeExtension d => d.memberNames?
  | _ => none

end Federation.Syntax
