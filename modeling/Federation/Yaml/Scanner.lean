import Federation.Yaml.Syntax
import Federation.Text.Utf8
import Federation.Fault

/-!
# Scanning YAML

The scanner turns a text into tokens on demand. It keeps a queue of tokens read ahead, the
current flow level (how many `[` or `{` are open), the indentation of the open block
collections, and, per flow level, the position of a token that may turn out to be a simple key:
a key written without `?`, recognised only when a `:` follows it on the same line. When that `:`
comes, a KEY token (and, if the key opens a new block mapping, a BLOCK-MAPPING-START token) is
inserted into the queue before the remembered token. This is why the scanner may read past the
token asked for: while the first queued token may still become a key, it is not handed out.

Block collections are closed by BLOCK-END tokens when a line starts left of their indentation.
Plain scalars run to the next `: `, ` #` or line break, continuing on more indented lines; quoted
scalars and block scalars (`|` literal, `>` folded) follow the rules of YAML 1.1.

The text ends with a NUL character, which no text may otherwise hold.

Scanning runs on the call stack, at the height kept in the state: each reading step runs one
frame above the step that calls it (`framed`), and the small steps inside it reach a few frames
higher (`touch`): looking at a character one, a slice of the text one and a refill of the
buffer near its end one more, making a mark three, making a token or a simple key two. A step
that would pass the height limit is the fault of nesting too deep. Tokens read ahead are read
at the height of the step that asked for the first of them, which is why nesting in a text of
short lines is often read long before it is reached.
-/

namespace Federation.Yaml

/-- The failure of nesting deeper than the call stack allows. -/
def tooDeep : YamlFailure := .crash (Fault.kind .tooDeep) (Fault.message .tooDeep)

/-- A token that may turn out to be a simple key: its number among all tokens, whether a key is
required there, and where it starts. -/
structure SimpleKey where
  tokenNumber : Nat
  required : Bool
  index : Nat
  line : Nat
  mark : Mark
  deriving Inhabited

/-- The state of the scanner, with the height of the call stack it runs at. -/
structure ScanState where
  buffer : Array Char
  index : Nat := 0
  line : Nat := 0
  column : Nat := 0
  tokens : List Token := []
  tokensTaken : Nat := 0
  done : Bool := false
  flowLevel : Nat := 0
  indent : Int := -1
  indents : List Int := []
  allowSimpleKey : Bool := true
  possibleSimpleKeys : List (Nat × SimpleKey) := []
  height : Nat := 0
  deriving Inhabited

/-- Scanning: it reads the state and may fail. -/
abbrev ScanM := StateT ScanState (Except YamlFailure)

/-- Fails with the fault of nesting too deep when a step `k` frames above the current height
would pass the height limit. -/
def touch (k : Nat) : ScanM Unit := do
  if (← get).height + k > stackLimit then throw tooDeep

/-- Runs a reading step one frame higher on the call stack. -/
def framed {α : Type} (act : ScanM α) : ScanM α := do
  modify fun s => { s with height := s.height + 1 }
  touch 0
  let a ← act
  modify fun s => { s with height := s.height - 1 }
  return a

/-- Whether a character is a line break. -/
def isBreak (c : Char) : Bool :=
  c == '\r' || c == '\n' || c == '\x85' || c == '\u2028' || c == '\u2029'

/-- Whether a character is a line break or the end of the text. -/
def isBreakZ (c : Char) : Bool := c == '\x00' || isBreak c

/-- Whether a character is a blank, a line break or the end of the text. -/
def isBlankZ (c : Char) : Bool := c == ' ' || c == '\t' || isBreakZ c

/-- Whether a character is a space, a line break or the end of the text. -/
def isSpaceZ (c : Char) : Bool := c == ' ' || isBreakZ c

/-- Whether a character is an ASCII letter or digit, a hyphen or an underscore. -/
def isWordChar (c : Char) : Bool :=
  ('0' ≤ c && c ≤ '9') || ('A' ≤ c && c ≤ 'Z') || ('a' ≤ c && c ≤ 'z') || c == '-' || c == '_'

/-- Whether a character is a hexadecimal digit. -/
def isHexChar (c : Char) : Bool :=
  ('0' ≤ c && c ≤ '9') || ('A' ≤ c && c ≤ 'F') || ('a' ≤ c && c ≤ 'f')

/-- The value of a hexadecimal digit. -/
def hexCharValue (c : Char) : Nat :=
  if '0' ≤ c && c ≤ '9' then c.toNat - '0'.toNat
  else if 'a' ≤ c && c ≤ 'f' then c.toNat - 'a'.toNat + 10
  else c.toNat - 'A'.toNat + 10

namespace ScanState

/-- The character `k` places ahead; NUL beyond the text. -/
def charAt (s : ScanState) (k : Nat) : Char := s.buffer.getD (s.index + k) '\x00'

/-- The mark of the current position. -/
def mark (s : ScanState) : Mark := ⟨s.index, s.line, s.column⟩

/-- The next `n` characters, fewer at the end of the text. -/
def ahead (s : ScanState) (n : Nat) : String :=
  String.ofList ((List.range n).filterMap fun k => s.buffer[s.index + k]?)

/-- The first offset from `k` on whose character fails a test. -/
def countWhile (s : ScanState) (p : Char → Bool) (k : Nat) : Nat :=
  go (s.buffer.size + 1) k
where
  go : Nat → Nat → Nat
    | 0, k => k
    | fuel + 1, k => if p (s.charAt k) then go fuel (k + 1) else k

/-- The first offset from `k` on that passes a test. -/
def offsetWhere (s : ScanState) (stop : Nat → Bool) (k : Nat) : Nat :=
  go (s.buffer.size + 1) k
where
  go : Nat → Nat → Nat
    | 0, k => k
    | fuel + 1, k => if stop k then k else go fuel (k + 1)

/-- Moves past `n` characters, counting lines and columns; a byte order mark takes no column. -/
def advance : Nat → ScanState → ScanState
  | 0, s => s
  | n + 1, s =>
    let ch := s.charAt 0
    let s' := { s with index := s.index + 1 }
    let s' :=
      if ch == '\n' || ch == '\x85' || ch == '\u2028' || ch == '\u2029' || (ch == '\r' && s'.charAt 0 != '\n') then
        { s' with line := s'.line + 1, column := 0 }
      else if ch != '\ufeff' then { s' with column := s'.column + 1 }
      else s'
    advance n s'

/-- How far above its caller moving past `n` characters reaches: one frame, and one more to
refill the buffer when the move comes within a character of the end of the text. -/
def forwardReach (s : ScanState) (n : Nat) : Nat :=
  if s.index + n + 1 ≥ s.buffer.size then 2 else 1

/-- How far above its caller a slice of the next `n` characters reaches: one frame, and one more
to refill the buffer when the slice would run past the end of the text. -/
def sliceReach (s : ScanState) (n : Nat) : Nat :=
  if s.index + n ≥ s.buffer.size then 2 else 1

end ScanState

/-- The character `k` places ahead. -/
def peekChar (k : Nat := 0) : ScanM Char := do
  touch 1
  return (← get).charAt k

/-- The mark of the current position. -/
def here : ScanM Mark := do
  touch 3
  return (← get).mark

/-- Moves past `n` characters. -/
def forward (n : Nat := 1) : ScanM Unit := do
  touch ((← get).forwardReach n)
  modify (ScanState.advance n)

/-- Reaches as far as a slice of the next `n` characters does. -/
def touchSlice (n : Nat) : ScanM Unit := do
  touch ((← get).sliceReach n)

/-- The next `n` characters. -/
def aheadText (n : Nat) : ScanM String := do
  touchSlice n
  return (← get).ahead n

/-- Moves past the characters that pass a test, returning them: they are looked at one by one,
then sliced off and passed together. -/
def takeWhile (p : Char → Bool) : ScanM String := do
  touch 1
  let n := (← get).countWhile p 0
  let text ← aheadText n
  forward n
  return text

/-- Moves past the characters that pass a test, one at a time. -/
def skipWhile (p : Char → Bool) : ScanM Unit := do
  touch 1
  let n := (← get).countWhile p 0
  if n > 0 then forward n

/-- Fails with an error of the scanner. -/
def scanError {α : Type} (context : Option String) (contextMark : Option Mark) (problem : String)
    (problemMark : Mark) : ScanM α :=
  throw (.marked { context, contextMark, problem := some problem, problemMark := some problemMark })

/-- A character as messages show it. -/
def showChar (c : Char) : String := Text.quoteText c.toString

/-- Reads a line break, normalised: carriage return and line feed, a lone carriage return and
next line become a line feed; the line and paragraph separators stay; anything else is no
break. -/
def scanLineBreak : ScanM String := framed do
  let ch ← peekChar
  if ch == '\r' || ch == '\n' || ch == '\x85' then
    if (← aheadText 2) == "\r\n" then forward 2 else forward
    return "\n"
  else if ch == '\u2028' || ch == '\u2029' then
    forward
    return ch.toString
  else return ""

/-- Adds a token at the end of the queue. -/
def pushToken (kind : TokenKind) (startMark endMark : Mark) : ScanM Unit := do
  touch 2
  modify fun s => { s with tokens := s.tokens ++ [⟨kind, startMark, endMark⟩] }

/-- Adds a token read by a reading step at the end of the queue. -/
def queueToken (t : Token) : ScanM Unit :=
  modify fun s => { s with tokens := s.tokens ++ [t] }

/-- Inserts a token into the queue at a position. -/
def insertToken (position : Nat) (kind : TokenKind) (m : Mark) : ScanM Unit := do
  touch 2
  modify fun s => { s with tokens := s.tokens.take position ++ [⟨kind, m, m⟩] ++ s.tokens.drop position }

/-- The error of a simple key that needed a `:` and did not get one. -/
def missingColon {α : Type} (key : SimpleKey) : ScanM α := do
  scanError (some "while scanning a simple key") (some key.mark) "could not find expected ':'" (← here)

/-- Forgets the possible simple keys that can no longer be keys: those on an earlier line or
more than 1024 characters back. A required one is an error. -/
def stalePossibleSimpleKeys : ScanM Unit := framed do
  let s ← get
  let rec go : List (Nat × SimpleKey) → ScanM (List (Nat × SimpleKey))
    | [] => pure []
    | (level, key) :: rest => do
      if key.line != s.line || s.index - key.index > 1024 then
        if key.required then missingColon key
        else go rest
      else
        let kept ← go rest
        pure ((level, key) :: kept)
  let kept ← go s.possibleSimpleKeys
  modify fun s => { s with possibleSimpleKeys := kept }

/-- The number of the earliest token that may still become a simple key. -/
def nextPossibleSimpleKey (s : ScanState) : Option Nat :=
  s.possibleSimpleKeys.foldl (fun acc (_, key) => match acc with
    | none => some key.tokenNumber
    | some n => some (min n key.tokenNumber)) none

/-- Forgets the possible simple key of the current flow level; a required one is an error. -/
def removePossibleSimpleKey : ScanM Unit := framed do
  let s ← get
  match s.possibleSimpleKeys.lookup s.flowLevel with
  | some key =>
    if key.required then missingColon key
    else set { s with possibleSimpleKeys := s.possibleSimpleKeys.filter (·.1 != s.flowLevel) }
  | none => pure ()

/-- Remembers that the next token may be a simple key, when simple keys are allowed here. -/
def savePossibleSimpleKey : ScanM Unit := framed do
  let s ← get
  let required := s.flowLevel == 0 && s.indent == (s.column : Int)
  if s.allowSimpleKey then
    removePossibleSimpleKey
    let mark ← here
    touch 2
    let s ← get
    let key : SimpleKey :=
      { tokenNumber := s.tokensTaken + s.tokens.length, required, index := s.index, line := s.line, mark }
    set { s with possibleSimpleKeys := s.possibleSimpleKeys ++ [(s.flowLevel, key)] }

/-- Closes the block collections indented deeper than a column, in block context. -/
def unwindIndent (column : Int) : ScanM Unit := framed do
  let s ← get
  if s.flowLevel != 0 then return
  let rec go : List Int → Int → List Token → List Int × Int × List Token
    | stack, indent, acc =>
      if indent > column then
        match stack with
        | top :: rest => go rest top (acc ++ [⟨.blockEnd, s.mark, s.mark⟩])
        | [] => (stack, indent, acc)
      else (stack, indent, acc)
  termination_by stack => stack.length
  let (indents, indent, ends) := go s.indents s.indent []
  if !ends.isEmpty then touch 3
  set { s with indents, indent, tokens := s.tokens ++ ends }

/-- Opens a deeper indentation at a column, if it is deeper; tells whether it did. -/
def addIndent (column : Int) : ScanM Bool := framed do
  let s ← get
  if s.indent < column then
    set { s with indents := s.indent :: s.indents, indent := column }
    return true
  else return false

/-- Skips blanks, comments and line breaks up to the next token; a line break in block context
allows a simple key again. A byte order mark at the very start is skipped. -/
def scanToNextToken : ScanM Unit := framed do
  if (← get).index == 0 then
    if (← peekChar) == '\ufeff' then forward
  let rec go : Nat → ScanM Unit
    | 0 => pure ()
    | fuel + 1 => do
      skipWhile (· == ' ')
      if (← peekChar) == '#' then
        skipWhile (fun c => !isBreakZ c)
      if (← scanLineBreak) != "" then
        if (← get).flowLevel == 0 then modify fun s => { s with allowSimpleKey := true }
        go fuel
  go ((← get).buffer.size + 1)

/-- Reads the rest of a directive's line: blanks, a comment, a line break. -/
def scanDirectiveIgnoredLine (startMark : Mark) : ScanM Unit := framed do
  skipWhile (· == ' ')
  if (← peekChar) == '#' then
    skipWhile (fun c => !isBreakZ c)
  let ch ← peekChar
  if !isBreakZ ch then
    scanError (some "while scanning a directive") (some startMark)
      ("expected a comment or a line break, but found " ++ showChar ch) (← here)
  let _ ← scanLineBreak

/-- Reads a directive's name. -/
def scanDirectiveName (startMark : Mark) : ScanM String := framed do
  touch 1
  let s ← get
  let length := s.countWhile isWordChar 0
  if length == 0 then
    scanError (some "while scanning a directive") (some startMark)
      ("expected alphabetic or numeric character, but found " ++ showChar (s.charAt 0)) (← here)
  let value ← aheadText length
  forward length
  let ch ← peekChar
  if !isSpaceZ ch then
    scanError (some "while scanning a directive") (some startMark)
      ("expected alphabetic or numeric character, but found " ++ showChar ch) (← here)
  return value

/-- Reads a number of a version directive. -/
def scanVersionNumber (startMark : Mark) : ScanM Nat := framed do
  let ch ← peekChar
  if !ch.isDigit then
    scanError (some "while scanning a directive") (some startMark)
      ("expected a digit, but found " ++ showChar ch) (← here)
  let digits ← takeWhile Char.isDigit
  return digits.toList.foldl (fun n c => n * 10 + (c.toNat - '0'.toNat)) 0

/-- Reads the value of a version directive: two numbers and a dot. -/
def scanVersionValue (startMark : Mark) : ScanM DirectiveValue := framed do
  skipWhile (· == ' ')
  let major ← scanVersionNumber startMark
  if (← peekChar) != '.' then
    scanError (some "while scanning a directive") (some startMark)
      ("expected a digit or '.', but found " ++ showChar (← peekChar)) (← here)
  forward
  let minor ← scanVersionNumber startMark
  if !isSpaceZ (← peekChar) then
    scanError (some "while scanning a directive") (some startMark)
      ("expected a digit or ' ', but found " ++ showChar (← peekChar)) (← here)
  return .version major minor

/-- Reads a tag handle: `!`, `!!` or `!word!`. -/
def scanTagHandle (name : String) (startMark : Mark) : ScanM String := framed do
  let ch ← peekChar
  if ch != '!' then
    scanError (some ("while scanning a " ++ name)) (some startMark)
      ("expected '!', but found " ++ showChar ch) (← here)
  touch 1
  let s ← get
  let length :=
    if s.charAt 1 != ' ' then
      let k := s.countWhile isWordChar 1
      if s.charAt k != '!' then none else some (k + 1)
    else some 1
  match length with
  | none =>
    let k := s.countWhile isWordChar 1
    forward k
    scanError (some ("while scanning a " ++ name)) (some startMark)
      ("expected '!', but found " ++ showChar (s.charAt k)) (← here)
  | some n =>
    let value ← aheadText n
    forward n
    return value

/-- Whether a character may stand in a tag's URI. -/
def isUriChar (c : Char) : Bool :=
  isWordChar c || ";/?:@&=+$,_.!~*'()[]%".contains c

/-- Reads escaped bytes of a URI, `%` and two hexadecimal digits each, decoded as UTF-8. -/
def scanUriEscapes (name : String) (startMark : Mark) : ScanM String := framed do
  let m ← here
  let rec go : Nat → List UInt8 → ScanM (List UInt8)
    | 0, acc => pure acc
    | fuel + 1, acc => do
      if (← peekChar) != '%' then return acc
      forward
      touch 1
      let s ← get
      for k in [0, 1] do
        if !isHexChar (s.charAt k) then
          scanError (some ("while scanning a " ++ name)) (some startMark)
            ("expected URI escape sequence of 2 hexadecimal numbers, but found " ++ showChar (s.charAt k))
            (← here)
      touchSlice 2
      let byte := hexCharValue (s.charAt 0) * 16 + hexCharValue (s.charAt 1)
      forward 2
      go fuel (acc ++ [byte.toUInt8])
  let bytes ← go ((← get).buffer.size + 1) []
  let codes := bytes.map UInt8.toNat
  match Text.decodeUtf8 codes with
  | .ok text => return text
  | .error e =>
    throw (.marked { context := some ("while scanning a " ++ name), contextMark := some startMark,
                     problem := some (e.message codes), problemMark := some m })

/-- Reads the URI of a tag. -/
def scanTagUri (name : String) (startMark : Mark) : ScanM String := framed do
  let rec go : Nat → List String → ScanM (List String)
    | 0, acc => pure acc
    | fuel + 1, acc => do
      touch 1
      let s ← get
      let length := s.countWhile (fun c => isUriChar c && c != '%') 0
      if s.charAt length == '%' then
        let chunk ← aheadText length
        forward length
        let decoded ← scanUriEscapes name startMark
        go fuel (acc ++ [chunk, decoded])
      else if length > 0 then
        let chunk ← aheadText length
        forward length
        pure (acc ++ [chunk])
      else pure acc
  let chunks ← go ((← get).buffer.size + 1) []
  if chunks.isEmpty then
    scanError (some ("while parsing a " ++ name)) (some startMark)
      ("expected URI, but found " ++ showChar (← peekChar)) (← here)
  return String.join chunks

/-- Reads the value of a tag directive: a handle and a prefix, each followed by a blank. -/
def scanTagDirectiveValue (startMark : Mark) : ScanM DirectiveValue := framed do
  skipWhile (· == ' ')
  let handle ← framed do
    let handle ← scanTagHandle "directive" startMark
    if (← peekChar) != ' ' then
      scanError (some "while scanning a directive") (some startMark)
        ("expected ' ', but found " ++ showChar (← peekChar)) (← here)
    pure handle
  skipWhile (· == ' ')
  let pre ← framed do
    let pre ← scanTagUri "directive" startMark
    if !isSpaceZ (← peekChar) then
      scanError (some "while scanning a directive") (some startMark)
        ("expected ' ', but found " ++ showChar (← peekChar)) (← here)
    pure pre
  return .tagHandle handle pre

/-- Reads a directive: `%YAML`, `%TAG` or another, ignored. -/
def scanDirective : ScanM Token := framed do
  let startMark ← here
  forward
  let name ← scanDirectiveName startMark
  let value ←
    if name == "YAML" then scanVersionValue startMark
    else if name == "TAG" then scanTagDirectiveValue startMark
    else pure .other
  let endMark ← here
  if name != "YAML" && name != "TAG" then
    skipWhile (fun c => !isBreakZ c)
  scanDirectiveIgnoredLine startMark
  touch 2
  return ⟨.directive name value, startMark, endMark⟩

/-- Reads an anchor `&name` or an alias `*name`. -/
def scanAnchor (isAlias : Bool) : ScanM Token := framed do
  let startMark ← here
  let name := if isAlias then "alias" else "anchor"
  touch 1
  forward
  touch 1
  let s ← get
  let length := s.countWhile isWordChar 0
  if length == 0 then
    scanError (some ("while scanning an " ++ name)) (some startMark)
      ("expected alphabetic or numeric character, but found " ++ showChar (s.charAt 0)) (← here)
  let value ← aheadText length
  forward length
  let ch ← peekChar
  if !(isBlankZ ch || "?:,]\x7d%@`".contains ch) then
    scanError (some ("while scanning an " ++ name)) (some startMark)
      ("expected alphabetic or numeric character, but found " ++ showChar ch) (← here)
  let endMark ← here
  touch 2
  return ⟨if isAlias then .aliasOf value else .anchor value, startMark, endMark⟩

/-- Reads a tag: verbatim `!<uri>`, the non-specific `!`, or a handle and a suffix. -/
def scanTag : ScanM Token := framed do
  let startMark ← here
  touch 1
  let s ← get
  let ch := s.charAt 1
  let (handle, suffix) ← do
    if ch == '<' then
      forward 2
      let suffix ← scanTagUri "tag" startMark
      if (← peekChar) != '>' then
        scanError (some "while parsing a tag") (some startMark)
          ("expected '>', but found " ++ showChar (← peekChar)) (← here)
      forward
      pure (none, suffix)
    else if isBlankZ ch then
      forward
      pure (none, "!")
    else
      let k := s.countWhile (fun c => !isSpaceZ c && c != '!') 1
      let useHandle := s.charAt k == '!'
      let handle ← if useHandle then scanTagHandle "tag" startMark else do forward; pure "!"
      let suffix ← scanTagUri "tag" startMark
      pure (some handle, suffix)
  let ch ← peekChar
  if !isSpaceZ ch then
    scanError (some "while scanning a tag") (some startMark)
      ("expected ' ', but found " ++ showChar ch) (← here)
  let endMark ← here
  touch 2
  return ⟨.tag handle suffix, startMark, endMark⟩

/-- Reads the header of a block scalar: chomping (`+` keep, `-` strip) and an indentation
increment, in either order. -/
def scanBlockScalarIndicators (startMark : Mark) : ScanM (Option Bool × Option Nat) := framed do
  let badZero : ScanM Unit := do
    scanError (some "while scanning a block scalar") (some startMark)
      "expected indentation indicator in the range 1-9, but found 0" (← here)
  let ch ← peekChar
  let (chomping, increment) ←
    if ch == '+' || ch == '-' then do
      forward
      let c ← peekChar
      if c.isDigit then
        if c == '0' then badZero
        forward
        pure (some (ch == '+'), some (c.toNat - '0'.toNat))
      else pure (some (ch == '+'), none)
    else if ch.isDigit then do
      if ch == '0' then badZero
      forward
      let c ← peekChar
      if c == '+' || c == '-' then
        forward
        pure (some (c == '+'), some (ch.toNat - '0'.toNat))
      else pure (none, some (ch.toNat - '0'.toNat))
    else pure (none, none)
  let ch ← peekChar
  if !isSpaceZ ch then
    scanError (some "while scanning a block scalar") (some startMark)
      ("expected chomping or indentation indicators, but found " ++ showChar ch) (← here)
  return (chomping, increment)

/-- Reads the rest of a block scalar's header line: blanks, a comment, a line break. -/
def scanBlockScalarIgnoredLine (startMark : Mark) : ScanM Unit := framed do
  skipWhile (· == ' ')
  if (← peekChar) == '#' then
    skipWhile (fun c => !isBreakZ c)
  let ch ← peekChar
  if !isBreakZ ch then
    scanError (some "while scanning a block scalar") (some startMark)
      ("expected a comment or a line break, but found " ++ showChar ch) (← here)
  let _ ← scanLineBreak

/-- Reads the blank lines before a block scalar's first line, finding its indentation: the line
breaks, the deepest column reached, and the mark after the last break. -/
def scanBlockScalarIndentation : ScanM (List String × Nat × Mark) := framed do
  let rec go : Nat → List String × Nat × Mark → ScanM (List String × Nat × Mark)
    | 0, acc => pure acc
    | fuel + 1, (chunks, maxIndent, endMark) => do
      let ch ← peekChar
      if ch == ' ' || isBreak ch then
        if ch != ' ' then
          let b ← scanLineBreak
          go fuel (chunks ++ [b], maxIndent, ← here)
        else
          forward
          let col := (← get).column
          go fuel (chunks, max maxIndent col, endMark)
      else pure (chunks, maxIndent, endMark)
  go ((← get).buffer.size + 1) ([], 0, ← here)

/-- Reads the line breaks and indentation between lines of a block scalar, with the mark before
the indentation skipped last. -/
def scanBlockScalarBreaks (indent : Nat) : ScanM (List String × Mark) := framed do
  let skipIndent : ScanM Unit := do
    let s ← get
    if s.column < indent then
      touch 1
      let n := min (s.countWhile (· == ' ') 0) (indent - s.column)
      if n > 0 then forward n
  let start ← here
  skipIndent
  let rec go : Nat → List String × Mark → ScanM (List String × Mark)
    | 0, acc => pure acc
    | fuel + 1, (chunks, endMark) => do
      if isBreak (← peekChar) then
        let b ← scanLineBreak
        let m ← here
        skipIndent
        go fuel (chunks ++ [b], m)
      else pure (chunks, endMark)
  go ((← get).buffer.size + 1) ([], start)

/-- Whether a block scalar goes on with another line at its indentation; looking at the next
character only when the column is right. -/
def blockScalarContinues (indent : Nat) : ScanM Bool := do
  let s ← get
  if s.column == indent then
    touch 1
    return s.charAt 0 != '\x00'
  else return false

/-- Reads a block scalar, literal or folded, with its chomping. -/
def scanBlockScalar (folded : Bool) : ScanM Token := framed do
  let startMark ← here
  forward
  let (chomping, increment) ← scanBlockScalarIndicators startMark
  scanBlockScalarIgnoredLine startMark
  let s ← get
  let minIndent : Nat := if s.indent + 1 < 1 then 1 else (s.indent + 1).toNat
  let (breaks, indent, endMark) ← match increment with
    | none => do
      let (breaks, maxIndent, endMark) ← scanBlockScalarIndentation
      pure (breaks, max minIndent maxIndent, endMark)
    | some inc => do
      let indent := minIndent + inc - 1
      let (breaks, endMark) ← scanBlockScalarBreaks indent
      pure (breaks, indent, endMark)
  let rec go : Nat → List String → List String → String → Mark →
      ScanM (List String × List String × String × Mark)
    | 0, chunks, breaks, lineBreak, endMark => pure (chunks, breaks, lineBreak, endMark)
    | fuel + 1, chunks, breaks, lineBreak, endMark => do
      if ← blockScalarContinues indent then
        let s ← get
        let chunks := chunks ++ breaks
        let leadingNonSpace := s.charAt 0 != ' ' && s.charAt 0 != '\t'
        let length := s.countWhile (fun c => !isBreakZ c) 0
        let text ← aheadText length
        let chunks := chunks ++ [text]
        forward length
        let lineBreak ← scanLineBreak
        let (breaks, endMark) ← scanBlockScalarBreaks indent
        if ← blockScalarContinues indent then
          let s ← get
          let chunks :=
            if folded && lineBreak == "\n" && leadingNonSpace && s.charAt 0 != ' ' && s.charAt 0 != '\t' then
              if breaks.isEmpty then chunks ++ [" "] else chunks
            else chunks ++ [lineBreak]
          go fuel chunks breaks lineBreak endMark
        else pure (chunks, breaks, lineBreak, endMark)
      else pure (chunks, breaks, lineBreak, endMark)
  let (chunks, breaks, lineBreak, endMark) ← go ((← get).buffer.size + 1) [] breaks "" endMark
  let chunks := if chomping != some false then chunks ++ [lineBreak] else chunks
  let chunks := if chomping == some true then chunks ++ breaks else chunks
  touch 2
  return ⟨.scalar (String.join chunks) false (some (if folded then '>' else '|')), startMark, endMark⟩


/-- The character a one-letter escape of a double-quoted scalar stands for. -/
def escapeReplacement (c : Char) : Option Char :=
  match c with
  | '0' => some '\x00'
  | 'a' => some '\x07'
  | 'b' => some '\x08'
  | 't' => some '\t'
  | '\t' => some '\t'
  | 'n' => some '\n'
  | 'v' => some '\x0b'
  | 'f' => some '\x0c'
  | 'r' => some '\r'
  | 'e' => some '\x1b'
  | ' ' => some ' '
  | '"' => some '"'
  | '\\' => some '\\'
  | '/' => some '/'
  | 'N' => some '\x85'
  | '_' => some '\xa0'
  | 'L' => some '\u2028'
  | 'P' => some '\u2029'
  | _ => none

/-- The number of hexadecimal digits a code escape takes. -/
def escapeCodeLength (c : Char) : Option Nat :=
  match c with
  | 'x' => some 2
  | 'u' => some 4
  | 'U' => some 8
  | _ => none

/-- Reads the line breaks inside a quoted scalar; a document marker there is an error. -/
def scanFlowScalarBreaks (startMark : Mark) : ScanM (List String) := framed do
  let rec go : Nat → List String → ScanM (List String)
    | 0, acc => pure acc
    | fuel + 1, acc => do
      let pre ← aheadText 3
      if (pre == "---" || pre == "...") && isBlankZ ((← get).charAt 3) then
        scanError (some "while scanning a quoted scalar") (some startMark)
          "found unexpected document separator" (← here)
      skipWhile (fun c => c == ' ' || c == '\t')
      if isBreak (← peekChar) then
        let b ← scanLineBreak
        go fuel (acc ++ [b])
      else pure acc
  go ((← get).buffer.size + 1) []

/-- Reads the part of a quoted scalar up to the next blank or line break, with escapes. -/
def scanFlowScalarNonSpaces (double : Bool) (startMark : Mark) : ScanM (List String) := framed do
  let rec go : Nat → List String → ScanM (List String)
    | 0, acc => pure acc
    | fuel + 1, acc => do
      touch 1
      let s ← get
      let length := s.countWhile (fun c => !(c == '\'' || c == '"' || c == '\\' || isBlankZ c)) 0
      let acc ←
        if length > 0 then do
          let text ← aheadText length
          forward length
          pure (acc ++ [text])
        else pure acc
      let s ← get
      let ch := s.charAt 0
      if !double && ch == '\'' && s.charAt 1 == '\'' then
        forward 2
        go fuel (acc ++ ["'"])
      else if (double && ch == '\'') || (!double && (ch == '"' || ch == '\\')) then
        forward
        go fuel (acc ++ [ch.toString])
      else if double && ch == '\\' then
        forward
        let c ← peekChar
        match escapeReplacement c, escapeCodeLength c with
        | some r, _ =>
          forward
          go fuel (acc ++ [r.toString])
        | none, some length =>
          forward
          touch 1
          let s ← get
          for k in List.range length do
            if !isHexChar (s.charAt k) then
              scanError (some "while scanning a double-quoted scalar") (some startMark)
                ("expected escape sequence of " ++ toString length ++ " hexadecimal numbers, but found " ++
                  showChar (s.charAt k)) (← here)
          touchSlice length
          let code := (List.range length).foldl (fun n k => n * 16 + hexCharValue (s.charAt k)) 0
          if code > 0x7FFFFFFF then throw (.crash "OverflowError" "Python int too large to convert to C int")
          if code > 0x10FFFF then throw (.crash "ValueError" "chr() arg not in range(0x110000)")
          forward length
          go fuel (acc ++ [(Char.ofNat code).toString])
        | none, none =>
          if isBreak c then
            let _ ← scanLineBreak
            let breaks ← scanFlowScalarBreaks startMark
            go fuel (acc ++ breaks)
          else
            scanError (some "while scanning a double-quoted scalar") (some startMark)
              ("found unknown escape character " ++ showChar c) (← here)
      else pure acc
  go ((← get).buffer.size + 1) []

/-- Reads blanks and line breaks inside a quoted scalar, folding a single line break into a
space. -/
def scanFlowScalarSpaces (startMark : Mark) : ScanM (List String) := framed do
  let whitespaces ← takeWhile (fun c => c == ' ' || c == '\t')
  let ch ← peekChar
  if ch == '\x00' then
    scanError (some "while scanning a quoted scalar") (some startMark)
      "found unexpected end of stream" (← here)
  else if isBreak ch then
    let lineBreak ← scanLineBreak
    let breaks ← scanFlowScalarBreaks startMark
    let first := if lineBreak != "\n" then [lineBreak] else if breaks.isEmpty then [" "] else []
    return first ++ breaks
  else return [whitespaces]

/-- Reads a single- or double-quoted scalar. -/
def scanFlowScalar (double : Bool) : ScanM Token := framed do
  let startMark ← here
  let quote ← peekChar
  forward
  let first ← scanFlowScalarNonSpaces double startMark
  let rec go : Nat → List String → ScanM (List String)
    | 0, acc => pure acc
    | fuel + 1, acc => do
      if (← peekChar) == quote then return acc
      let spaces ← scanFlowScalarSpaces startMark
      let more ← scanFlowScalarNonSpaces double startMark
      go fuel (acc ++ spaces ++ more)
  let chunks ← go ((← get).buffer.size + 1) first
  forward
  let endMark ← here
  touch 2
  return ⟨.scalar (String.join chunks) false (some (if double then '"' else '\'')), startMark, endMark⟩

/-- Reads the blanks and line breaks after a part of a plain scalar; none when the scalar must
end (a document marker starts the next line). A single line break folds into a space. -/
def scanPlainSpaces : ScanM (Option (List String)) := framed do
  let whitespaces ← takeWhile (· == ' ')
  let ch ← peekChar
  if isBreak ch then
    let lineBreak ← scanLineBreak
    modify fun s => { s with allowSimpleKey := true }
    let atMarker : ScanM Bool := do
      let pre ← aheadText 3
      return (pre == "---" || pre == "...") && isBlankZ ((← get).charAt 3)
    if ← atMarker then return none
    let rec go : Nat → List String → ScanM (Option (List String))
      | 0, acc => pure (some acc)
      | fuel + 1, acc => do
        let c ← peekChar
        if c == ' ' then
          forward
          go fuel acc
        else if isBreak c then
          let b ← scanLineBreak
          if ← atMarker then return none
          go fuel (acc ++ [b])
        else pure (some acc)
    match ← go ((← get).buffer.size + 1) [] with
    | none => return none
    | some breaks =>
      let first := if lineBreak != "\n" then [lineBreak] else if breaks.isEmpty then [" "] else []
      return some (first ++ breaks)
  else if whitespaces != "" then return some [whitespaces]
  else return some []

/-- Reads a plain scalar, across lines indented deeper than the current block. -/
def scanPlain : ScanM Token := framed do
  let startMark ← here
  let indent := (← get).indent + 1
  let rec go : Nat → List String → List String → Mark → ScanM (List String × Mark)
    | 0, chunks, _, endMark => pure (chunks, endMark)
    | fuel + 1, chunks, spaces, endMark => do
      touch 1
      let s ← get
      if s.charAt 0 == '#' then return (chunks, endMark)
      let flow := s.flowLevel != 0
      let stop (k : Nat) : Bool :=
        let c := s.charAt k
        isBlankZ c ||
          (c == ':' && (isBlankZ (s.charAt (k + 1)) || (flow && ",[]\x7b\x7d".contains (s.charAt (k + 1))))) ||
          (flow && ",?[]\x7b\x7d".contains c)
      let length := s.offsetWhere stop 0
      if length == 0 then return (chunks, endMark)
      modify fun s => { s with allowSimpleKey := false }
      let text ← aheadText length
      let chunks := chunks ++ spaces ++ [text]
      forward length
      let endMark ← here
      match ← scanPlainSpaces with
      | none => pure (chunks, endMark)
      | some spaces =>
        let s ← get
        if spaces.isEmpty || s.charAt 0 == '#' || (s.flowLevel == 0 && (s.column : Int) < indent) then
          pure (chunks, endMark)
        else go fuel chunks spaces endMark
  let (chunks, endMark) ← go ((← get).buffer.size + 1) [] [] startMark
  touch 2
  return ⟨.scalar (String.join chunks) true none, startMark, endMark⟩

/-- Whether a `---` or `...` at the start of a line marks a document. -/
def atDocumentMarker (s : ScanState) (marker : String) : Bool :=
  s.column == 0 && s.ahead 3 == marker && isBlankZ (s.charAt 3)

/-- Whether a plain scalar may start here. -/
def checkPlain (s : ScanState) : Bool :=
  let ch := s.charAt 0
  !(isBlankZ ch || "-?:,[]\x7b\x7d#&*!|>'\"%@`".contains ch) ||
    (!isBlankZ (s.charAt 1) && (ch == '-' || (s.flowLevel == 0 && (ch == '?' || ch == ':'))))

/-- Adds a token of one character, with the marks before and after it. -/
def fetchSingle (kind : TokenKind) : ScanM Unit := do
  let startMark ← here
  forward
  pushToken kind startMark (← here)

/-- Ends the stream: closes every block collection and forgets the simple keys. -/
def fetchStreamEnd : ScanM Unit := framed do
  unwindIndent (-1)
  removePossibleSimpleKey
  modify fun s => { s with allowSimpleKey := false, possibleSimpleKeys := [] }
  let m ← here
  pushToken .streamEnd m m
  modify fun s => { s with done := true }

/-- Reads a directive, which closes every block collection. -/
def fetchDirective : ScanM Unit := framed do
  unwindIndent (-1)
  removePossibleSimpleKey
  modify fun s => { s with allowSimpleKey := false }
  queueToken (← scanDirective)

/-- Reads a document marker, `---` or `...`, which closes every block collection. -/
def fetchDocumentIndicator (kind : TokenKind) : ScanM Unit := framed do
  unwindIndent (-1)
  removePossibleSimpleKey
  modify fun s => { s with allowSimpleKey := false }
  let startMark ← here
  forward 3
  pushToken kind startMark (← here)

/-- Opens a flow collection, which may turn out to be a simple key. -/
def fetchFlowCollectionStart (kind : TokenKind) : ScanM Unit := framed do
  savePossibleSimpleKey
  modify fun s => { s with flowLevel := s.flowLevel + 1, allowSimpleKey := true }
  fetchSingle kind

/-- Closes a flow collection. -/
def fetchFlowCollectionEnd (kind : TokenKind) : ScanM Unit := framed do
  removePossibleSimpleKey
  modify fun s => { s with flowLevel := s.flowLevel - 1, allowSimpleKey := false }
  fetchSingle kind

/-- Reads the `,` between the entries of a flow collection. -/
def fetchFlowEntry : ScanM Unit := framed do
  modify fun s => { s with allowSimpleKey := true }
  removePossibleSimpleKey
  fetchSingle .flowEntry

/-- Reads the `-` of a block sequence entry; in block context it may open a sequence at a deeper
indentation. -/
def fetchBlockEntry : ScanM Unit := framed do
  let s ← get
  if s.flowLevel == 0 then
    if !s.allowSimpleKey then
      scanError none none "sequence entries are not allowed here" (← here)
    if ← addIndent (s.column : Int) then
      let m ← here
      pushToken .blockSequenceStart m m
  modify fun s => { s with allowSimpleKey := true }
  removePossibleSimpleKey
  fetchSingle .blockEntry

/-- Reads the `?` of a key; in block context it may open a mapping at a deeper indentation. -/
def fetchKey : ScanM Unit := framed do
  let s ← get
  let flow := s.flowLevel != 0
  if !flow then
    if !s.allowSimpleKey then
      scanError none none "mapping keys are not allowed here" (← here)
    if ← addIndent (s.column : Int) then
      let m ← here
      pushToken .blockMappingStart m m
  modify fun s => { s with allowSimpleKey := !flow }
  removePossibleSimpleKey
  fetchSingle .key

/-- Reads the `:` of a value: a possible simple key before it becomes a key, opening a block
mapping at its column when that is deeper. -/
def fetchValue : ScanM Unit := framed do
  let s ← get
  let flow := s.flowLevel != 0
  match s.possibleSimpleKeys.lookup s.flowLevel with
  | some key =>
    modify fun s => { s with possibleSimpleKeys := s.possibleSimpleKeys.filter (·.1 != s.flowLevel) }
    let position := key.tokenNumber - (← get).tokensTaken
    insertToken position .key key.mark
    if !flow then
      if ← addIndent (key.mark.column : Int) then
        insertToken position .blockMappingStart key.mark
    modify fun s => { s with allowSimpleKey := false }
  | none =>
    if !flow then
      if !s.allowSimpleKey then
        scanError none none "mapping values are not allowed here" (← here)
      if ← addIndent (s.column : Int) then
        let m ← here
        pushToken .blockMappingStart m m
    modify fun s => { s with allowSimpleKey := !flow }
    removePossibleSimpleKey
  fetchSingle .value

/-- Reads an alias or an anchor, which may turn out to be a simple key. -/
def fetchAnchor (isAlias : Bool) : ScanM Unit := framed do
  savePossibleSimpleKey
  modify fun s => { s with allowSimpleKey := false }
  queueToken (← scanAnchor isAlias)

/-- Reads a tag, which may turn out to be a simple key. -/
def fetchTag : ScanM Unit := framed do
  savePossibleSimpleKey
  modify fun s => { s with allowSimpleKey := false }
  queueToken (← scanTag)

/-- Reads a block scalar, after which a simple key may start. -/
def fetchBlockScalar (folded : Bool) : ScanM Unit := framed do
  modify fun s => { s with allowSimpleKey := true }
  removePossibleSimpleKey
  queueToken (← scanBlockScalar folded)

/-- Reads a quoted scalar, which may turn out to be a simple key. -/
def fetchFlowScalar (double : Bool) : ScanM Unit := framed do
  savePossibleSimpleKey
  modify fun s => { s with allowSimpleKey := false }
  queueToken (← scanFlowScalar double)

/-- Reads a plain scalar, which may turn out to be a simple key. -/
def fetchPlain : ScanM Unit := framed do
  savePossibleSimpleKey
  modify fun s => { s with allowSimpleKey := false }
  queueToken (← scanPlain)

/-- Reads the next token or tokens into the queue. Some kinds of token are read through a step
of their own and one for their family (collection starts and ends, document markers, block
and quoted scalars), which puts them a frame higher. -/
def fetchMoreTokens : ScanM Unit := framed do
  scanToNextToken
  stalePossibleSimpleKeys
  unwindIndent ((← get).column : Int)
  let ch ← peekChar
  let s ← get
  let flow := s.flowLevel != 0
  if ch == '\x00' then fetchStreamEnd
  else if ch == '%' && s.column == 0 then fetchDirective
  else if ch == '-' && atDocumentMarker s "---" then framed (fetchDocumentIndicator .documentStart)
  else if ch == '.' && atDocumentMarker s "..." then framed (fetchDocumentIndicator .documentEnd)
  else if ch == '[' then framed (fetchFlowCollectionStart .flowSequenceStart)
  else if ch == '\x7b' then framed (fetchFlowCollectionStart .flowMappingStart)
  else if ch == ']' then framed (fetchFlowCollectionEnd .flowSequenceEnd)
  else if ch == '\x7d' then framed (fetchFlowCollectionEnd .flowMappingEnd)
  else if ch == ',' then fetchFlowEntry
  else if ch == '-' && isBlankZ (s.charAt 1) then fetchBlockEntry
  else if ch == '?' && (flow || isBlankZ (s.charAt 1)) then fetchKey
  else if ch == ':' && (flow || isBlankZ (s.charAt 1)) then fetchValue
  else if ch == '*' || ch == '&' then fetchAnchor (ch == '*')
  else if ch == '!' then fetchTag
  else if (ch == '|' || ch == '>') && !flow then framed (fetchBlockScalar (ch == '>'))
  else if ch == '\'' || ch == '"' then framed (fetchFlowScalar (ch == '"'))
  else if checkPlain s then fetchPlain
  else
    scanError (some "while scanning for the next token") none
      ("found character " ++ showChar ch ++ " that cannot start any token") (← here)

/-- Whether more tokens must be read before the first queued one can be handed out. -/
def needMoreTokens : ScanM Bool := framed do
  let s ← get
  if s.done then return false
  if s.tokens.isEmpty then return true
  stalePossibleSimpleKeys
  touch 1
  return nextPossibleSimpleKey (← get) == some (← get).tokensTaken

/-- Reads tokens until the first queued one can be handed out. -/
def fillTokens : ScanM Unit := do
  let rec go : Nat → ScanM Unit
    | 0 => pure ()
    | fuel + 1 => do
      if ← needMoreTokens then
        fetchMoreTokens
        go fuel
  go (2 * (← get).buffer.size + 4)

/-- The next token, without taking it. -/
def peekToken : ScanM (Option Token) := framed do
  fillTokens
  return (← get).tokens.head?

/-- Takes the next token. -/
def takeToken : ScanM (Option Token) := framed do
  fillTokens
  let s ← get
  match s.tokens with
  | t :: rest =>
    set { s with tokens := rest, tokensTaken := s.tokensTaken + 1 }
    return some t
  | [] => return none

/-- The scanner at the start of a text, with the stream-start token queued. -/
def ScanState.start (text : String) : ScanState :=
  let buffer := (text.toList ++ ['\x00']).toArray
  { buffer, tokens := [⟨.streamStart, ⟨0, 0, 0⟩, ⟨0, 0, 0⟩⟩] }

end Federation.Yaml
