import Federation.Syntax.Lexer
import Federation.Syntax.Ast

/-!
# Parser

A recursive-descent reader of GraphQL documents over a token stream. The reader looks at one
token, sometimes two; it meets a lexical error only when it moves onto it, so of two faults the
first one reached is reported.

The reader runs on a call stack of bounded height (`stackLimit`). Each reading function takes a
frame of its own, and so does each loop over bracketed or delimited items. Moving onto the next
token takes three frames above the function that moves; scanning that token, unless a lookahead
has scanned it already, takes one frame more and then as many as the token's reach. A syntax
error is built eight frames above the function that raises it. A step that would run above the
limit is a fault, met at the first such step, before any error that would follow it.
The reader starts at the height at which it is called, so that a caller deeper in the program
leaves less room for nesting.

Every reading function that may recurse or repeat takes a step budget (`fuel`); `parse` gives a
budget that grows with the number of tokens, and every step of a loop or of nesting consumes a
token, so the budget is never what ends a reading.
-/

namespace Federation.Syntax.Parser

/-- The reader's place: the current lexeme and the stream after it, with the source read, the
height of the call stack the reader is at, and whether the point after the current lexeme has
been scanned already. -/
structure Cursor where
  current : Lexeme
  rest : TokenStream
  source : String
  height : Nat
  scanned : Bool := false

/-- Reading with a place in a stream, failing with a syntax error or a fault. -/
abbrev ParseM := StateT Cursor (Except ReadError)

/-- The current lexeme. -/
def current : ParseM Lexeme := return (← get).current

/-- Fails with the fault `tooDeep` when a step `k` frames above the current height would pass
the limit of the stack. -/
def touch (k : Nat) : ParseM Unit := do
  if (← get).height + k > stackLimit then throw (.fault .tooDeep)

/-- How far above the moving function moving on reaches: the frames that take the current token
and look at the next, and, unless the end of input is reached or the next point was scanned
already, the scan of it. -/
def moveReach (c : Cursor) : Nat :=
  match c.current.token with
  | .eof => 3
  | _ => if c.scanned then 3 else 4 + c.rest.reach

/-- Moves onto the next lexeme; at the end of input the reader stays there. -/
def advance : ParseM Unit := do
  let c ← get
  touch (moveReach c)
  match c.current.token, c.rest with
  | .eof, _ => pure ()
  | _, .cons l r => set { c with current := l, rest := r, scanned := false }
  | _, .eof p r => set { c with current := ⟨.eof, p, r⟩, rest := .eof p r, scanned := false }
  | _, .error e _ => throw e

/-- Runs a reading step `n` frames higher on the stack. -/
def nested (n : Nat) (act : ParseM α) : ParseM α := do
  modify fun c => { c with height := c.height + n }
  let a ← act
  modify fun c => { c with height := c.height - n }
  return a

/-- Runs a reading step in a frame of its own. -/
def framed (act : ParseM α) : ParseM α := nested 1 act

/-- The lexeme after the current one, without moving, looked at in a frame of its own; the
point after the current lexeme is scanned then, once. -/
def lookahead : ParseM Lexeme := framed do
  let c ← get
  match c.current.token, c.rest with
  | .eof, _ => return c.current
  | _, rest =>
    if !c.scanned then touch (1 + rest.reach)
    match rest with
    | .cons l _ => set { c with scanned := true }; return l
    | .eof p r => set { c with scanned := true }; return ⟨.eof, p, r⟩
    | .error e _ => throw e

/-- The error for a lexeme that fits nowhere. -/
def unexpectedAt (l : Lexeme) : SyntaxError := ⟨l.start, "Unexpected " ++ l.token.describe ++ "."⟩

/-- Fails with a syntax error built in the current frame. -/
def fail (e : SyntaxError) : ParseM α := do
  touch 8
  throw (.malformed e)

/-- Fails at a lexeme, the error being built in a frame of its own. -/
def unexpectedLexeme (l : Lexeme) : ParseM α := framed (fail (unexpectedAt l))

/-- Fails at the current lexeme. -/
def unexpected : ParseM α := do unexpectedLexeme (← current)

/-- Whether the current token is of a kind. -/
def peek (k : TokenKind) : ParseM Bool := return (← current).token.kind == k

/-- Takes a token of a kind, or fails naming what was expected. -/
def expect (k : TokenKind) : ParseM Token := framed do
  let l ← current
  if l.token.kind == k then
    advance
    return l.token
  else fail ⟨l.start, "Expected " ++ k.describe ++ ", found " ++ l.token.describe ++ "."⟩

/-- Takes a token of a kind if it is there. -/
def expectOptional (k : TokenKind) : ParseM Bool := framed do
  if ← peek k then
    advance
    return true
  else return false

/-- Whether the current token is a given name. -/
def peekKeyword (v : String) : ParseM Bool := do
  match (← current).token with
  | .name n => return n == v
  | _ => return false

/-- Takes a given name, or fails naming it. -/
def expectKeyword (v : String) : ParseM Unit := framed do
  let l ← current
  if ← peekKeyword v then advance
  else fail ⟨l.start, "Expected '" ++ v ++ "', found " ++ l.token.describe ++ "."⟩

/-- Takes a given name if it is there. -/
def expectOptionalKeyword (v : String) : ParseM Bool := framed do
  if ← peekKeyword v then
    advance
    return true
  else return false

/-- Takes a name. -/
def parseName : ParseM String := framed do
  match ← expect .name with
  | .name n => return n
  | _ => unexpected

/-- A named type: its name. -/
def parseNamedType : ParseM String := framed parseName

/-- Items up to a closing token, which is taken. -/
def untilClose (close : TokenKind) (item : ParseM α) : Nat → ParseM (List α)
  | 0 => unexpected
  | n + 1 => do
    if ← expectOptional close then return []
    let x ← item
    return x :: (← untilClose close item n)

/-- An opening token, then items up to a closing token. -/
def anyOf (opening close : TokenKind) (item : ParseM α) (fuel : Nat) : ParseM (List α) :=
  framed do
    let _ ← expect opening
    untilClose close item fuel

/-- An opening token, at least one item, then items up to a closing token. -/
def manyOf (opening close : TokenKind) (item : ParseM α) (fuel : Nat) : ParseM (List α) :=
  framed do
    let _ ← expect opening
    let x ← item
    return x :: (← untilClose close item fuel)

/-- Like `manyOf` when the opening token is there, and no items when it is not. -/
def optionalManyOf (opening close : TokenKind) (item : ParseM α) (fuel : Nat) :
    ParseM (List α) :=
  framed do
    if ← expectOptional opening then
      let x ← item
      return x :: (← untilClose close item fuel)
    else return []

/-- Items separated by a delimiter. -/
def delimitedItems (delimiter : TokenKind) (item : ParseM α) : Nat → ParseM (List α)
  | 0 => unexpected
  | n + 1 => do
    let x ← item
    if ← expectOptional delimiter then return x :: (← delimitedItems delimiter item n)
    else return [x]

/-- Items separated by a delimiter, which may also stand before the first. -/
def delimitedMany (delimiter : TokenKind) (item : ParseM α) (fuel : Nat) : ParseM (List α) :=
  framed do
    let _ ← expectOptional delimiter
    delimitedItems delimiter item fuel

/-- Items for as long as the current token is of a kind. -/
def whilePeek (k : TokenKind) (item : ParseM α) : Nat → ParseM (List α)
  | 0 => unexpected
  | n + 1 => do
    if ← peek k then
      let x ← item
      return x :: (← whilePeek k item n)
    else return []

mutual

/-- An input value; a constant one admits no variables. A list or an object takes two frames
for itself and its items; a scalar is read in a frame of its own; a variable is read one frame
higher, in a constant value to be rejected. -/
def parseValue (isConst : Bool) : Nat → ParseM Value
  | 0 => unexpected
  | fuel + 1 => framed do
    let l ← current
    match l.token with
    | .punct .bracketL =>
      return .list (← framed (anyOf (.punct .bracketL) (.punct .bracketR) (parseValue isConst fuel) fuel))
    | .punct .braceL =>
      return .object (← framed (anyOf (.punct .braceL) (.punct .braceR) (parseObjectField isConst fuel) fuel))
    | .int t => framed advance; return .int t
    | .float t => framed advance; return .float t
    | .string s => framed advance; return .string s false
    | .blockString s => framed advance; return .string s true
    | .name n =>
      framed advance
      if n == "true" then return .boolean true
      else if n == "false" then return .boolean false
      else if n == "null" then return .null
      else return .enum n
    | .punct .dollar =>
      if isConst then framed do
        let _ ← expect (.punct .dollar)
        match (← current).token with
        | .name v => fail ⟨l.start, "Unexpected variable '$" ++ v ++ "' in constant value."⟩
        | _ => unexpectedLexeme l
      else
        framed (framed do
          let _ ← expect (.punct .dollar)
          return .variable (← parseName))
    | _ => unexpectedLexeme l

/-- A field of an object value. -/
def parseObjectField (isConst : Bool) : Nat → ParseM (String × Value)
  | 0 => unexpected
  | fuel + 1 => framed do
    let n ← parseName
    let _ ← expect (.punct .colon)
    return (n, ← parseValue isConst fuel)

end

/-- An argument: a name, a colon and a value, with the offset where the value starts. A
constant argument is read one frame higher. -/
def parseArgument (isConst : Bool) (fuel : Nat) : ParseM ((String × Value) × Nat) :=
  nested (if isConst then 2 else 1) do
    let n ← parseName
    let _ ← expect (.punct .colon)
    let start := (← current).start
    return ((n, ← parseValue isConst fuel), start)

/-- Arguments in parentheses, if any, with the offsets where their values start. -/
def parseArguments (isConst : Bool) (fuel : Nat) : ParseM (List ((String × Value) × Nat)) :=
  framed (optionalManyOf (.punct .parenL) (.punct .parenR) (parseArgument isConst fuel) fuel)

/-- A directive: an at sign, a name and arguments, with where it stands in the source. -/
def parseDirective (isConst : Bool) (fuel : Nat) : ParseM Directive := framed do
  let start := (← current).start
  let _ ← expect (.punct .atSign)
  let n ← parseName
  let arguments ← parseArguments isConst fuel
  return { name := n, arguments := arguments.map (·.1),
           site := some { source := (← get).source, start, valueStarts := arguments.map (·.2) } }

/-- The directives that follow, if any; constant ones are read one frame higher. -/
def parseDirectives (isConst : Bool) (fuel : Nat) : ParseM (List Directive) :=
  nested (if isConst then 2 else 1) (whilePeek (.punct .atSign) (parseDirective isConst fuel) fuel)

/-- A type reference. -/
def parseTypeRef : Nat → ParseM TypeRef
  | 0 => unexpected
  | fuel + 1 => framed do
    let t ← if ← expectOptional (.punct .bracketL) then do
        let inner ← parseTypeRef fuel
        let _ ← expect (.punct .bracketR)
        pure (TypeRef.list inner)
      else pure (TypeRef.named (← parseNamedType))
    if ← expectOptional (.punct .bang) then return .nonNull t else return t

/-- A fragment's name, which must not be `on`. -/
def parseFragmentName : ParseM String := framed do
  if (← current).token.value? == some "on" then unexpected else parseName

mutual

/-- A selection set in braces: at least one selection. -/
def parseSelectionSet : Nat → ParseM (List Selection)
  | 0 => unexpected
  | fuel + 1 => framed (manyOf (.punct .braceL) (.punct .braceR) (parseSelection fuel) fuel)

/-- A field, a fragment spread or an inline fragment, each read in a frame of its own. -/
def parseSelection : Nat → ParseM Selection
  | 0 => unexpected
  | fuel + 1 => framed do
    if ← peek (.punct .spread) then framed do
      let _ ← expect (.punct .spread)
      let hasTypeCondition ← expectOptionalKeyword "on"
      if !hasTypeCondition && (← peek .name) then
        let n ← parseFragmentName
        return .fragmentSpread n (← parseDirectives false fuel)
      else
        let typeCondition ← if hasTypeCondition then some <$> parseNamedType else pure none
        let directives ← parseDirectives false fuel
        return .inlineFragment typeCondition directives (← parseSelectionSet fuel)
    else framed do
      let nameOrAlias ← parseName
      let (fieldAlias, n) ← if ← expectOptional (.punct .colon) then
          pure (some nameOrAlias, ← parseName)
        else pure (none, nameOrAlias)
      let arguments ← parseArguments false fuel
      let directives ← parseDirectives false fuel
      let selections ← if ← peek (.punct .braceL) then some <$> parseSelectionSet fuel
        else pure none
      return .field fieldAlias n (arguments.map (·.1)) directives selections

end

/-- A description: a string or block string before a definition, read in a frame of its own. -/
def parseDescription : ParseM (Option String) := framed do
  match (← current).token with
  | .string s | .blockString s => framed advance; return some s
  | _ => return none

/-- An operation type: `query`, `mutation` or `subscription`. -/
def parseOperationType : ParseM OperationType := framed do
  let l ← current
  let _ ← expect .name
  match l.token with
  | .name "query" => return .query
  | .name "mutation" => return .mutation
  | .name "subscription" => return .subscription
  | _ => unexpectedLexeme l

/-- A root operation type of a schema: an operation type, a colon and a type name. -/
def parseOperationTypeDefinition : ParseM (OperationType × String) := framed do
  let op ← parseOperationType
  let _ ← expect (.punct .colon)
  return (op, ← parseNamedType)

/-- The interfaces a type implements, if any. -/
def parseImplementsInterfaces (fuel : Nat) : ParseM (List String) := framed do
  if ← expectOptionalKeyword "implements" then delimitedMany (.punct .amp) parseNamedType fuel
  else return []

/-- A constant value, read one frame higher. -/
def parseConstValue (fuel : Nat) : ParseM Value := framed (parseValue true fuel)

/-- An argument or input field definition. -/
def parseInputValueDefinition (fuel : Nat) : ParseM InputValueDefinition := framed do
  let description ← parseDescription
  let n ← parseName
  let _ ← expect (.punct .colon)
  let type ← parseTypeRef fuel
  let defaultValue ← if ← expectOptional (.punct .equals) then some <$> parseConstValue fuel
    else pure none
  return ⟨description, n, type, defaultValue, ← parseDirectives true fuel⟩

/-- Argument definitions in parentheses, if any. -/
def parseArgumentDefinitions (fuel : Nat) : ParseM (List InputValueDefinition) :=
  framed (optionalManyOf (.punct .parenL) (.punct .parenR) (parseInputValueDefinition fuel) fuel)

/-- A field definition. -/
def parseFieldDefinition (fuel : Nat) : ParseM FieldDefinition := framed do
  let description ← parseDescription
  let n ← parseName
  let arguments ← parseArgumentDefinitions fuel
  let _ ← expect (.punct .colon)
  let type ← parseTypeRef fuel
  return ⟨description, n, arguments, type, ← parseDirectives true fuel⟩

/-- Field definitions in braces, if any. -/
def parseFieldsDefinition (fuel : Nat) : ParseM (List FieldDefinition) :=
  framed (optionalManyOf (.punct .braceL) (.punct .braceR) (parseFieldDefinition fuel) fuel)

/-- The name of an enum value, which must not be `true`, `false` or `null`. -/
def parseEnumValueName : ParseM String := framed do
  let l ← current
  match l.token.value? with
  | some v =>
    if v == "true" || v == "false" || v == "null" then
      fail ⟨l.start, l.token.describe ++ " is reserved and cannot be used for an enum value."⟩
    else parseName
  | none => parseName

/-- An enum value definition. -/
def parseEnumValueDefinition (fuel : Nat) : ParseM EnumValueDefinition := framed do
  let description ← parseDescription
  let n ← parseEnumValueName
  return ⟨description, n, ← parseDirectives true fuel⟩

/-- Enum value definitions in braces, if any. -/
def parseEnumValuesDefinition (fuel : Nat) : ParseM (List EnumValueDefinition) :=
  framed (optionalManyOf (.punct .braceL) (.punct .braceR) (parseEnumValueDefinition fuel) fuel)

/-- Input field definitions in braces, if any. -/
def parseInputFieldsDefinition (fuel : Nat) : ParseM (List InputValueDefinition) :=
  framed (optionalManyOf (.punct .braceL) (.punct .braceR) (parseInputValueDefinition fuel) fuel)

/-- The members of a union after an equals sign, if any. -/
def parseUnionMemberTypes (fuel : Nat) : ParseM (List String) := framed do
  if ← expectOptional (.punct .equals) then delimitedMany (.punct .pipe) parseNamedType fuel
  else return []

/-- The body of a type declaration of a kind, after its name. -/
def parseTypeBody (kind : TypeKind) (fuel : Nat) : ParseM (List Directive × TypeBody) := do
  match kind with
  | .scalar => return (← parseDirectives true fuel, .scalar)
  | .object =>
    let interfaces ← parseImplementsInterfaces fuel
    let directives ← parseDirectives true fuel
    return (directives, .object interfaces (← parseFieldsDefinition fuel))
  | .interface =>
    let interfaces ← parseImplementsInterfaces fuel
    let directives ← parseDirectives true fuel
    return (directives, .interface interfaces (← parseFieldsDefinition fuel))
  | .union =>
    let directives ← parseDirectives true fuel
    return (directives, .union (← parseUnionMemberTypes fuel))
  | .enum =>
    let directives ← parseDirectives true fuel
    return (directives, .enum (← parseEnumValuesDefinition fuel))
  | .inputObject =>
    let directives ← parseDirectives true fuel
    return (directives, .inputObject (← parseInputFieldsDefinition fuel))

/-- A type definition of a kind. -/
def parseTypeDefinition (kind : TypeKind) (fuel : Nat) : ParseM Definition := framed do
  let description ← parseDescription
  expectKeyword kind.keyword
  let n ← parseName
  let (directives, body) ← parseTypeBody kind fuel
  return .type ⟨description, n, directives, body⟩

/-- A type extension of a kind; it must add something. -/
def parseTypeExtension (kind : TypeKind) (fuel : Nat) : ParseM Definition := framed do
  expectKeyword "extend"
  expectKeyword kind.keyword
  let n ← parseName
  let (directives, body) ← parseTypeBody kind fuel
  if !body.addsSomething directives then unexpected
  return .typeExtension ⟨none, n, directives, body⟩

/-- The names of the places a directive may be used. -/
def directiveLocationNames : List String :=
  ["QUERY", "MUTATION", "SUBSCRIPTION", "FIELD", "FRAGMENT_DEFINITION", "FRAGMENT_SPREAD",
    "INLINE_FRAGMENT", "VARIABLE_DEFINITION", "SCHEMA", "SCALAR", "OBJECT", "FIELD_DEFINITION",
    "ARGUMENT_DEFINITION", "INTERFACE", "UNION", "ENUM", "ENUM_VALUE", "INPUT_OBJECT",
    "INPUT_FIELD_DEFINITION"]

/-- A directive location name. -/
def parseDirectiveLocation : ParseM String := framed do
  let l ← current
  let n ← parseName
  if directiveLocationNames.contains n then return n else unexpectedLexeme l

/-- A directive definition. -/
def parseDirectiveDefinition (fuel : Nat) : ParseM Definition := framed do
  let description ← parseDescription
  expectKeyword "directive"
  let _ ← expect (.punct .atSign)
  let n ← parseName
  let arguments ← parseArgumentDefinitions fuel
  let repeatable ← expectOptionalKeyword "repeatable"
  expectKeyword "on"
  return .directive description n arguments repeatable
    (← framed (delimitedMany (.punct .pipe) parseDirectiveLocation fuel))

/-- A schema definition. -/
def parseSchemaDefinition (fuel : Nat) : ParseM Definition := framed do
  let description ← parseDescription
  expectKeyword "schema"
  let directives ← parseDirectives true fuel
  return .schema description directives
    (← manyOf (.punct .braceL) (.punct .braceR) parseOperationTypeDefinition fuel)

/-- A schema extension; it must add something. -/
def parseSchemaExtension (fuel : Nat) : ParseM Definition := framed do
  expectKeyword "extend"
  expectKeyword "schema"
  let directives ← parseDirectives true fuel
  let operationTypes ←
    optionalManyOf (.punct .braceL) (.punct .braceR) parseOperationTypeDefinition fuel
  if directives.isEmpty && operationTypes.isEmpty then unexpected
  return .schemaExtension directives operationTypes

/-- An extension, chosen by the keyword after `extend`. -/
def parseExtension (fuel : Nat) : ParseM Definition := framed do
  let k ← lookahead
  match k.token with
  | .name "schema" => parseSchemaExtension fuel
  | .name kw =>
    match TypeKind.ofKeyword? kw with
    | some kind => parseTypeExtension kind fuel
    | none => unexpectedLexeme k
  | _ => unexpectedLexeme k

/-- A variable definition of an operation. -/
def parseVariableDefinition (fuel : Nat) : ParseM VariableDefinition := framed do
  let n ← framed do
    let _ ← expect (.punct .dollar)
    parseName
  let _ ← expect (.punct .colon)
  let type ← parseTypeRef fuel
  let defaultValue ← if ← expectOptional (.punct .equals) then some <$> parseConstValue fuel
    else pure none
  return ⟨n, type, defaultValue, ← parseDirectives true fuel⟩

/-- An operation: a bare selection set, or an operation type with optional name, variables and
directives before the selection set. -/
def parseOperationDefinition (fuel : Nat) : ParseM Definition := framed do
  if ← peek (.punct .braceL) then
    return .operation .query none [] [] (← parseSelectionSet fuel)
  let op ← parseOperationType
  let n ← if ← peek .name then some <$> parseName else pure none
  let variableDefinitions ← framed
    (optionalManyOf (.punct .parenL) (.punct .parenR) (parseVariableDefinition fuel) fuel)
  let directives ← parseDirectives false fuel
  return .operation op n variableDefinitions directives (← parseSelectionSet fuel)

/-- A fragment definition. -/
def parseFragmentDefinition (fuel : Nat) : ParseM Definition := framed do
  expectKeyword "fragment"
  let n ← parseFragmentName
  let typeCondition ← framed do
    expectKeyword "on"
    parseNamedType
  let directives ← parseDirectives false fuel
  return .fragment n typeCondition directives (← parseSelectionSet fuel)

/-- A definition, chosen by its first keyword; only type system definitions take a
description. -/
def parseDefinition (fuel : Nat) : ParseM Definition := framed do
  if ← peek (.punct .braceL) then return ← parseOperationDefinition fuel
  let hasDescription ← do
    match (← current).token with
    | .string _ | .blockString _ => pure true
    | _ => pure false
  let k ← if hasDescription then lookahead else current
  match k.token with
  | .name kw =>
    match TypeKind.ofKeyword? kw with
    | some kind => parseTypeDefinition kind fuel
    | none =>
      if kw == "schema" then parseSchemaDefinition fuel
      else if kw == "directive" then parseDirectiveDefinition fuel
      else if hasDescription then
        fail ⟨(← current).start,
          "Unexpected description, descriptions are supported only on type definitions."⟩
      else if kw == "query" || kw == "mutation" || kw == "subscription" then
        parseOperationDefinition fuel
      else if kw == "fragment" then parseFragmentDefinition fuel
      else if kw == "extend" then parseExtension fuel
      else unexpectedLexeme k
  | _ => unexpectedLexeme k

/-- A document: at least one definition, up to the end of input; the document and its list of
definitions take a frame each. -/
def parseDocument (fuel : Nat) : ParseM Document := framed (framed do
  let d ← parseDefinition fuel
  return ⟨d :: (← untilClose .eof (parseDefinition fuel) fuel)⟩)

/-- The place at the first lexeme of a stream of a source, at a height. -/
def Cursor.start (source : String) (height : Nat) : TokenStream → Except ReadError Cursor
  | .cons l r => .ok { current := l, rest := r, source, height }
  | .eof p r => .ok { current := ⟨.eof, p, r⟩, rest := .eof p r, source, height }
  | .error e _ => .error e

/-- The step budget for a stream: enough for every loop and every level of nesting. -/
def budget (tokens : TokenStream) : Nat := 4 * tokens.length + 16

/-- Reads a whole document from its source text, called at a height of the call stack
(graphql-core `parse`). -/
def parse (source : String) (height : Nat) : Except ReadError Document := do
  let tokens := Lexer.scan source.toList
  (parseDocument (budget tokens)).run' (← Cursor.start source height tokens)

end Federation.Syntax.Parser
