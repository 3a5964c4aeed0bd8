import Federation.Schema.Basic
import Federation.Text.Decimal
import Federation.Text.Quote
import Federation.Fault

/-!
# Literals of input values

How a literal becomes an input value, and how an input value is written back as a literal.

Reading against a specified scalar accepts: for `Int` an integer in the signed 32-bit range,
for `Float` any number, for `String` a string, for `Boolean` a boolean, for `ID` a string or
an integer (kept as its text). A literal of another kind does not fit. A scalar declared in a
schema reads any literal as it stands: numbers as numbers, enum names as strings, lists and
objects as such.

Writing a value back serializes it for its type: a float is written with the fewest digits that
read back, without a trailing `.0`; an `ID` that looks like an integer is written as one; an
enum value by its name.
-/

namespace Federation.Schema

open Syntax

/-- Why a schema could not be built or written. -/
inductive SchemaError where
  /-- A reference or value with no place in the schema. -/
  | mismatch (message : String)
  /-- A directive argument that does not fit the directive's definition. -/
  | invalidArgument (message : String)
  /-- Writing the text of an error met a fault. -/
  | fault (f : Fault)
  deriving Repr

/-- The text of a schema error. -/
def SchemaError.message : SchemaError → String
  | .mismatch m | .invalidArgument m => m
  | .fault f => f.message

/-- The same error with a prefix that names where it arose; a fault stays as it is. -/
def SchemaError.within (prefix_ : String) : SchemaError → SchemaError
  | .mismatch m => .mismatch (prefix_ ++ m)
  | .invalidArgument m => .invalidArgument (prefix_ ++ m)
  | .fault f => .fault f

/-- The integer an integer literal's text denotes. -/
def integerOfText (text : String) : Int :=
  match text.toList with
  | '-' :: ds => -(Text.digitValue ds : Int)
  | ds => Text.digitValue ds

/-- Whether an integer fits in 32 signed bits. -/
def isInt32 (n : Int) : Bool := -2147483648 ≤ n && n ≤ 2147483647

/-- The most digits an integer literal may have to be read as a number. -/
def integerDigitLimit : Nat := 4300

/-- Whether an integer literal's text has too many digits to be read as a number. -/
def tooManyDigits (text : String) : Bool :=
  (text.toList.filter Char.isDigit).length > integerDigitLimit

/-- A literal read as it stands, as a declared scalar reads it; an integer with too many digits
reads as not-a-number. -/
def readUntyped : Value → InputValue
  | .variable _ => .null
  | .int t => if tooManyDigits t then .float (0.0 / 0.0) else .int (integerOfText t)
  | .float t => .float (Text.readDouble t)
  | .string s _ => .string s
  | .boolean b => .boolean b
  | .null => .null
  | .enum n => .string n
  | .list items => .list (readUntypedList items)
  | .object fields => .object (readUntypedFields [] fields)
where
  readUntypedList : List Value → List InputValue
    | [] => []
    | v :: vs => readUntyped v :: readUntypedList vs
  readUntypedFields : Table InputValue → List (String × Value) → Table InputValue
    | acc, [] => acc
    | acc, (n, v) :: fs => readUntypedFields (acc.set n (readUntyped v)) fs

/-- A non-null literal read against a scalar of a name; nothing when it does not fit. -/
def readScalar (scalar : String) (v : Value) : Option InputValue :=
  match scalar, v with
  | "Int", .int t => let n := integerOfText t; if isInt32 n then some (.int n) else none
  | "Int", _ => none
  | "Float", .int t | "Float", .float t => some (.float (Text.readDouble t))
  | "Float", _ => none
  | "String", .string s _ => some (.string s)
  | "String", _ => none
  | "Boolean", .boolean b => some (.boolean b)
  | "Boolean", _ => none
  | "ID", .string s _ => some (.string s)
  | "ID", .int t => some (.string t)
  | "ID", _ => none
  | _, v => some (readUntyped v)

/-- A literal read against an enum with given values: one of the value names. -/
def readEnum (values : List String) : Value → Option InputValue
  | .enum n => if values.contains n then some (.string n) else none
  | _ => none

/-- The text of a float as a literal: the fewest digits that read back, without `.0`. -/
def floatLiteralText (x : Float) : String :=
  let t := Text.doubleText x
  if t.endsWith ".0" then String.ofList (t.toList.dropLast.dropLast) else t

/-- Whether a text is an integer without leading zeros, possibly followed by one line feed. -/
def looksIntegral (s : String) : Bool :=
  let cs := s.toList
  let cs := if cs.getLast? == some '\n' then cs.dropLast else cs
  let ds := match cs with | '-' :: r => r | r => r
  match ds with
  | [] => false
  | ['0'] => true
  | '0' :: _ => false
  | _ => ds.all Char.isDigit

/-- The most characters an inspected text keeps; longer ones lose their middle. -/
def inspectWidth : Nat := 240

/-- A text cut to the inspection width, its middle replaced by an ellipsis. -/
def truncateText (s : String) : String :=
  if s.length > inspectWidth then
    let front := (inspectWidth - 3) / 2
    let back := inspectWidth - 3 - front
    String.ofList (s.toList.take front) ++ "..." ++ String.ofList (s.toList.drop (s.length - back))
  else s

/-- The items an inspection shows of a long collection: the first five, an ellipsis and the
last four. -/
def truncateItems (items : List String) : List String :=
  if items.length > 10 then items.take 5 ++ ["..."] ++ items.drop (items.length - 4) else items

/-- A value as an inspection shows it, for messages: collections nested two deep show their
contents, deeper ones only their brackets. -/
def InputValue.inspectAt (depth : Nat) : InputValue → String
  | .null => "None"
  | .boolean b => if b then "True" else "False"
  | .int n => truncateText (toString n)
  | .float x => Text.doubleText x
  | .string s => truncateText (Text.quoteText s)
  | .list [] => "[]"
  | .list items =>
    if depth < 2 then "[" ++ ", ".intercalate (truncateItems (inspectList items)) ++ "]" else "[...]"
  | .object [] => "\x7b\x7d"
  | .object fields =>
    if depth < 2 then "\x7b" ++ ", ".intercalate (truncateItems (inspectFields fields)) ++ "\x7d"
    else "\x7b...\x7d"
where
  inspectList : List InputValue → List String
    | [] => []
    | v :: vs => v.inspectAt (depth + 1) :: inspectList vs
  inspectFields : List (String × InputValue) → List String
    | [] => []
    | (n, v) :: fs => (truncateText (Text.quoteText n) ++ ": " ++ v.inspectAt (depth + 1)) :: inspectFields fs

/-- A value as an inspection shows it. -/
def InputValue.inspect (v : InputValue) : String := v.inspectAt 0

/-- A value of a scalar or enum type written as a literal. -/
def writeLeaf (t : NamedType) (v : InputValue) : Except SchemaError (Option Value) :=
  match t.shape, v with
  | .enum values, .string s =>
    if values.contains s then pure (some (.enum s))
    else throw (.invalidArgument ("Enum '" ++ t.name ++ "' cannot represent value: " ++ v.inspect))
  | .enum _, _ =>
    throw (.invalidArgument ("Enum '" ++ t.name ++ "' cannot represent value: " ++ v.inspect))
  | _, .boolean b =>
    if t.name == "String" || t.name == "ID" then pure (some (.string (if b then "true" else "false") false))
    else if t.name == "Int" || t.name == "Float" then pure (some (.int (if b then "1" else "0")))
    else pure (some (.boolean b))
  | _, .int n =>
    if t.name == "Float" then pure (some (.float (floatLiteralText (Float.ofInt n))))
    else if t.name == "String" then pure (some (.string (toString n) false))
    else pure (some (.int (toString n)))
  | _, .float x =>
    if x.isNaN || x.isInf then
      if t.name == "Float" then
        throw (.invalidArgument ("Float cannot represent non numeric value: " ++ v.inspect))
      else throw (.mismatch ("Cannot convert value to AST: " ++ v.inspect ++ "."))
    else if t.name == "String" then pure (some (.string (Text.doubleText x) false))
    else pure (some (.float (floatLiteralText x)))
  | _, .string s =>
    if t.name == "ID" && looksIntegral s then pure (some (.int s))
    else pure (some (.string s false))
  | _, .null => pure none
  | _, _ => throw (.mismatch ("Cannot convert value to AST: " ++ v.inspect ++ "."))

/-- The size of a value, counting every value in it. -/
def InputValue.size : InputValue → Nat
  | .list items => 1 + sizeList items
  | .object fields => 1 + sizeFields fields
  | _ => 1
where
  sizeList : List InputValue → Nat
    | [] => 0
    | v :: vs => v.size + sizeList vs
  sizeFields : List (String × InputValue) → Nat
    | [] => 0
    | (_, v) :: fs => v.size + sizeFields fs

/-- The non-null writing of a value: a null value written for a non-null type is no literal. -/
def dropNull : Option Value → Option Value
  | some .null => none
  | r => r

/-- An input value of a type written back as a literal, the types looked up by name; nothing
when the value has no literal of that type. -/
def writeValue (lookup : String → Option NamedType) : Nat → InputValue → TypeRef →
    Except SchemaError (Option Value)
  | 0, _, _ => pure none
  | fuel + 1, v, .nonNull t => return dropNull (← writeValue lookup fuel v t)
  | _, .null, _ => pure (some .null)
  | fuel + 1, v, .list t =>
    match v with
    | .list items => do
      let written ← items.mapM fun item => writeValue lookup fuel item t
      pure (some (.list (written.filterMap id)))
    | _ => writeValue lookup fuel v t
  | fuel + 1, v, .named n =>
    match lookup n with
    | some t =>
      match t.shape, v with
      | .inputObject fields, .object given => do
        let written ← fields.filterMapM fun (fname, f) => do
          match Table.find? given fname with
          | some fv => pure ((← writeValue lookup fuel fv f.type).map (fname, ·))
          | none => pure none
        pure (some (.object written))
      | .inputObject _, _ => pure none
      | .scalar _, _ | .enum _, _ => writeLeaf t v
      | _, _ => throw (.mismatch ("Unexpected input type: " ++ n ++ "."))
    | none => pure none

end Federation.Schema
