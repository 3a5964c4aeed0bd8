import Federation.Text.Quote

/-!
# YAML marks, errors, tokens and events

A mark is a position in a YAML text: the offset of a character, and its zero-based line and
column. An error names what was being read and where it began (the context), and what went
wrong and where (the problem). Its text shows each mark as a line `in "<unicode string>", line L,
column C:` followed by a snippet of the marked line with a caret under the column; the context
mark is left out when it stands where the problem mark does.

The snippet shows at most 36 characters on each side of the mark; a longer side is cut to 32
characters and marked ` ... `.

Tokens are what the scanner reads; events are what the parser makes of them.
-/

namespace Federation.Yaml

/-- A position in a text: offset, line and column, counted from zero. -/
structure Mark where
  index : Nat
  line : Nat
  column : Nat
  deriving Repr, Inhabited, BEq, DecidableEq

/-- The name marks give the text they point into. -/
def streamName : String := "<unicode string>"

/-- Whether a character ends a line of the snippet: a line break or the end of the text. -/
def isSnippetEnd (c : Char) : Bool :=
  c == '\x00' || c == '\r' || c == '\n' || c == '\x85' || c == '\u2028' || c == '\u2029'

/-- Where the snippet of a mark starts, and whether its start was cut. -/
def snippetStart (buffer : Array Char) (pointer : Nat) : Nat × Bool :=
  go pointer pointer
where
  go : Nat → Nat → Nat × Bool
    | 0, start => (start, false)
    | fuel + 1, start =>
      if start > 0 && !isSnippetEnd (buffer.getD (start - 1) '\x00') then
        let start := start - 1
        if pointer - start ≥ 37 then (start + 5, true) else go fuel start
      else (start, false)

/-- Where the snippet of a mark ends, and whether its end was cut. -/
def snippetEnd (buffer : Array Char) (pointer : Nat) : Nat × Bool :=
  go (buffer.size + 1) pointer
where
  go : Nat → Nat → Nat × Bool
    | 0, stop => (stop, false)
    | fuel + 1, stop =>
      if stop < buffer.size && !isSnippetEnd (buffer.getD stop '\x00') then
        let stop := stop + 1
        if stop - pointer ≥ 37 then (stop - 5, true) else go fuel stop
      else (stop, false)

/-- The snippet of a mark: its line, indented by four, and a caret under its column. -/
def Mark.snippet (m : Mark) (buffer : Array Char) : String :=
  let (start, cutHead) := snippetStart buffer m.index
  let (stop, cutTail) := snippetEnd buffer m.index
  let head := if cutHead then " ... " else ""
  let tail := if cutTail then " ... " else ""
  let text := String.ofList ((buffer.toList.drop start).take (stop - start))
  "    " ++ head ++ text ++ tail ++ "\n" ++
    String.ofList (List.replicate (4 + (m.index - start) + head.length) ' ') ++ "^"

/-- The text of a mark: where it points and its snippet. -/
def Mark.render (m : Mark) (buffer : Array Char) : String :=
  "  in \"" ++ streamName ++ "\", line " ++ toString (m.line + 1) ++ ", column " ++
    toString (m.column + 1) ++ ":\n" ++ m.snippet buffer

/-- An error at marks of a text. -/
structure MarkedError where
  context : Option String := none
  contextMark : Option Mark := none
  problem : Option String := none
  problemMark : Option Mark := none
  deriving Repr, Inhabited, DecidableEq

/-- Whether two marks point at the same line and column. -/
def Mark.samePlace (a b : Mark) : Bool := a.line == b.line && a.column == b.column

/-- The text of an error: context, its mark unless the problem mark stands there, problem and
its mark, one per line. -/
def MarkedError.render (e : MarkedError) (buffer : Array Char) : String :=
  let showContextMark := match e.contextMark, e.problem, e.problemMark with
    | some _, none, _ => true
    | some _, _, none => true
    | some c, some _, some p => !c.samePlace p
    | none, _, _ => false
  let parts :=
    e.context.toList ++
    (if showContextMark then (e.contextMark.map (·.render buffer)).toList else []) ++
    e.problem.toList ++ (e.problemMark.map (·.render buffer)).toList
  "\n".intercalate parts

/-- Why a YAML text could not be loaded. -/
inductive YamlFailure where
  /-- The text is not well-formed YAML, or holds what cannot be built. -/
  | marked (e : MarkedError)
  /-- The text holds a character YAML does not allow, at an offset. -/
  | unacceptable (position : Nat) (code : Nat)
  /-- Building a value failed outside the rules of YAML: a kind of failure and its message. -/
  | crash (kind : String) (message : String)
  deriving Repr, Inhabited, DecidableEq

/-- The four or more lowercase hexadecimal digits of a code point. -/
def hexCode (n : Nat) : String := String.ofList (Text.hexDigits 4 n)

/-- The text of a failure, given the text that failed. -/
def YamlFailure.render (f : YamlFailure) (buffer : Array Char) : String :=
  match f with
  | .marked e => e.render buffer
  | .unacceptable position code =>
    "unacceptable character #x" ++ hexCode code ++ ": special characters are not allowed\n  in \"" ++
      streamName ++ "\", position " ++ toString position
  | .crash _ message => message

/-- The value of a directive. -/
inductive DirectiveValue where
  | version (major minor : Nat)
  | tagHandle (handle : String) (tagPrefix : String)
  | other
  deriving Repr, Inhabited

/-- What a token is. -/
inductive TokenKind where
  | streamStart
  | streamEnd
  | directive (name : String) (value : DirectiveValue)
  | documentStart
  | documentEnd
  | blockSequenceStart
  | blockMappingStart
  | blockEnd
  | flowSequenceStart
  | flowMappingStart
  | flowSequenceEnd
  | flowMappingEnd
  | key
  | value
  | blockEntry
  | flowEntry
  | aliasOf (name : String)
  | anchor (name : String)
  | tag (handle : Option String) (suffix : String)
  | scalar (value : String) (plain : Bool) (style : Option Char)
  deriving Repr, Inhabited

/-- How messages name a kind of token. -/
def TokenKind.id : TokenKind → String
  | .streamStart => "<stream start>"
  | .streamEnd => "<stream end>"
  | .directive .. => "<directive>"
  | .documentStart => "<document start>"
  | .documentEnd => "<document end>"
  | .blockSequenceStart => "<block sequence start>"
  | .blockMappingStart => "<block mapping start>"
  | .blockEnd => "<block end>"
  | .flowSequenceStart => "["
  | .flowMappingStart => "\x7b"
  | .flowSequenceEnd => "]"
  | .flowMappingEnd => "\x7d"
  | .key => "?"
  | .value => ":"
  | .blockEntry => "-"
  | .flowEntry => ","
  | .aliasOf _ => "<alias>"
  | .anchor _ => "<anchor>"
  | .tag .. => "<tag>"
  | .scalar .. => "<scalar>"

/-- A token with the marks of its start and end. -/
structure Token where
  kind : TokenKind
  startMark : Mark
  endMark : Mark
  deriving Repr, Inhabited

/-- What an event is. A scalar's implicitness tells whether its tag may be resolved from a plain
value, and whether from a quoted one. -/
inductive EventKind where
  | streamStart
  | streamEnd
  | documentStart (explicit : Bool)
  | documentEnd (explicit : Bool)
  | aliasOf (anchor : String)
  | scalar (anchor : Option String) (tag : Option String) (plainImplicit quotedImplicit : Bool)
      (value : String)
  | sequenceStart (anchor : Option String) (tag : Option String) (implicit : Bool)
  | sequenceEnd
  | mappingStart (anchor : Option String) (tag : Option String) (implicit : Bool)
  | mappingEnd
  deriving Repr, Inhabited

/-- An event with the marks of its start and end. -/
structure Event where
  kind : EventKind
  startMark : Mark
  endMark : Mark
  deriving Repr, Inhabited

/-- The anchor an event names, if any. -/
def Event.anchor (e : Event) : Option String :=
  match e.kind with
  | .scalar a .. | .sequenceStart a .. | .mappingStart a .. => a
  | _ => none

end Federation.Yaml
