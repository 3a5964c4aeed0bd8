import Federation.Schema.Literal
import Federation.Schema.Builtin
import Federation.Syntax.Printer
import Federation.Syntax.StringLiteral
import Federation.Fault

/-!
# Printing schemas

A schema is printed as a schema document: the directives that are not those of the GraphQL
specification, then the types that are not built in, in the order of the type map, separated by
blank lines. The root types need no schema definition, since they carry their conventional
names.

A description is printed above what it describes, as a block string when it reads back from
one and as a quoted string otherwise; inside a block of members, a description that does not
open the block is preceded by a blank line. Arguments stand on one line unless one of them has a
description. A default value is printed as the literal its value writes back to, and a
deprecation with its reason unless that is the default reason.

Printing runs at a height of the call stack. Writing a type out climbs three frames for each of
its parts, wrapper or name, above the frame that writes it; printing fails when that passes the
height limit.
-/

namespace Federation.Schema

open Syntax

/-- The description of a definition on lines of its own, indented: as a block string when it
reads back from one, else as a quoted string. -/
def printDescription (description : Option String) (indentation : String := "")
    (firstInBlock : Bool := true) : String :=
  match description with
  | none => ""
  | some d =>
    let lead := if indentation != "" && !firstInBlock then "\n" ++ indentation else indentation
    let literal := if printableAsBlockString d then printBlockString d else printString d
    lead ++ literal.replace "\n" ("\n" ++ indentation) ++ "\n"

/-- The deprecation of a member, if it has one. -/
def printDeprecated : Option String → String
  | none => ""
  | some r =>
    if r != defaultDeprecationReason then " @deprecated(reason: " ++ printString r ++ ")"
    else " @deprecated"

/-- The specification link of a scalar, if it has one. -/
def printSpecifiedBy : Option String → String
  | none => ""
  | some u => " @specifiedBy(url: " ++ printString u ++ ")"

/-- The members of a block, each on its own lines, between braces; nothing for no members. -/
def printBlock (items : List String) : String :=
  if items.isEmpty then "" else " \x7b\n" ++ "\n".intercalate items ++ "\n\x7d"

/-- The size of the largest type of an input position of a schema, bounding how far writing a
value descends through types between two of its own levels. -/
def inputTypeBudget (s : Schema) : Nat :=
  (s.types.map fun (_, t) => (t.inputFields.map fun (_, f) => f.type.size).foldr (· + ·) 0).foldr
    (· + ·) 0 + 1

/-- The default of an argument or input field written back as a literal, if it has one. -/
def writeDefault (s : Schema) (arg : InputField) : Except SchemaError (Option Value) :=
  match arg.default with
  | none => pure none
  | some v =>
    let lookup := fun n => (s.type? n).orElse fun _ => standardType? n
    writeValue lookup ((v.size + 1) * (arg.type.size + s.inputTypeBudget + 1)) v arg.type

/-- Fails when writing a type out from a frame at a height of the call stack passes the height
limit: each part of the type climbs three frames above the part around it. -/
def checkTypeText (height : Nat) (type : TypeRef) : Except SchemaError Unit :=
  if height + 3 * type.size > stackLimit then throw (.fault .tooDeep) else pure ()

/-- An argument or input field, printed from a frame at a height of the call stack: its name,
type, default and deprecation. The default is written before the type. -/
def printInputValue (s : Schema) (height : Nat) (name : String) (arg : InputField) :
    Except SchemaError String := do
  let dflt ← s.writeDefault arg
  checkTypeText height arg.type
  let decl := name ++ ": " ++ arg.type.print
  let decl := match dflt with
    | some v => decl ++ " = " ++ v.print
    | none => decl
  pure (decl ++ printDeprecated arg.deprecation)

/-- Whether a description is there and not empty. -/
def hasDescription (d : Option String) : Bool :=
  match d with
  | some t => !t.isEmpty
  | none => false

/-- The arguments of a field or directive, printed at a height of the call stack: on one line, or
one per line when any has a description. Each argument is printed three frames higher. -/
def printArgs (s : Schema) (height : Nat) (args : Table InputField)
    (indentation : String := "") : Except SchemaError String := do
  if args.isEmpty then return ""
  if !(args.any fun (_, a) => hasDescription a.description) then
    let items ← args.mapM fun (n, a) => s.printInputValue (height + 3) n a
    return "(" ++ ", ".intercalate items ++ ")"
  let items ← args.zipIdx.mapM fun ((n, a), i) => do
    let v ← s.printInputValue (height + 3) n a
    pure (printDescription a.description ("  " ++ indentation) (i == 0) ++ "  " ++ indentation ++ v)
  pure ("(\n" ++ "\n".intercalate items ++ "\n" ++ indentation ++ ")")

/-- The fields of an object or interface type, as a block, printed at a height of the call
stack: each field one frame higher, its arguments first and then its type. -/
def printFields (s : Schema) (height : Nat) (fields : Table Field) :
    Except SchemaError String := do
  let items ← fields.zipIdx.mapM fun ((n, f), i) => do
    let args ← s.printArgs (height + 2) f.arguments "  "
    checkTypeText (height + 1) f.type
    pure (printDescription f.description "  " (i == 0) ++ "  " ++ n ++ args ++ ": " ++
      f.type.print ++ printDeprecated f.deprecation)
  pure (printBlock items)

/-- The interfaces a type implements, if any. -/
def printImplements (interfaces : List String) : String :=
  if interfaces.isEmpty then "" else " implements " ++ " & ".intercalate interfaces

/-- A named type as a definition, printed at a height of the call stack. -/
def printType (s : Schema) (height : Nat) (t : NamedType) : Except SchemaError String :=
  let head := printDescription t.description
  match t.shape with
  | .scalar url => pure (head ++ "scalar " ++ t.name ++ printSpecifiedBy url)
  | .object is fs => do
    pure (head ++ "type " ++ t.name ++ printImplements is ++ (← s.printFields (height + 2) fs))
  | .interface is fs => do
    pure (head ++ "interface " ++ t.name ++ printImplements is ++ (← s.printFields (height + 2) fs))
  | .union ms =>
    pure (head ++ "union " ++ t.name ++ (if ms.isEmpty then "" else " = " ++ " | ".intercalate ms))
  | .enum vs =>
    let items := vs.zipIdx.map fun ((n, v), i) =>
      printDescription v.description "  " (i == 0) ++ "  " ++ n ++ printDeprecated v.deprecation
    pure (head ++ "enum " ++ t.name ++ printBlock items)
  | .inputObject fs => do
    let items ← fs.zipIdx.mapM fun ((n, f), i) => do
      let v ← s.printInputValue (height + 3) n f
      pure (printDescription f.description "  " (i == 0) ++ "  " ++ v)
    pure (head ++ "input " ++ t.name ++ printBlock items)

/-- A directive as a definition, printed at a height of the call stack. -/
def printDirective (s : Schema) (height : Nat) (d : DirectiveDefinition) :
    Except SchemaError String := do
  let args ← s.printArgs (height + 1) d.arguments
  pure (printDescription d.description ++ "directive @" ++ d.name ++ args ++
    (if d.repeatable then " repeatable" else "") ++ " on " ++
    " | ".intercalate (d.locations.map DirectiveLocation.name))

/-- The schema as a document, printed at a height of the call stack: its own directives, then
its types that are not built in, each printed two frames higher (graphql-core `print_schema`). -/
def print (s : Schema) (height : Nat) : Except SchemaError String := do
  let directives ← (s.directives.filter fun d => !specifiedDirectiveNames.contains d.name).mapM
    (s.printDirective (height + 2))
  let types ← (s.types.filter fun (n, _) => !isStandardName n).mapM fun (_, t) =>
    s.printType (height + 2) t
  pure ("\n\n".intercalate (directives ++ types))

end Federation.Schema
