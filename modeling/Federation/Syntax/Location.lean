import Federation.Fault

/-!
# Source locations and syntax errors

A position in a GraphQL source is an offset counted in characters. This module turns an offset
into a line and a column and renders the excerpt that a syntax error carries: the line before the
error, the line of the error with a caret under its column, and the line after. A line longer than
120 characters is shown in chunks of 80 instead, so that the caret stays readable.

Lines of the excerpt end at a line feed, a carriage return, or the two together. The line and
column of an offset are counted on the lines of the text before it, where every line boundary
counts.
-/

namespace Federation.Syntax

/-- A one-based line and column. -/
structure Location where
  line : Nat
  column : Nat
  deriving Repr, BEq, DecidableEq

/-- The error a reader reports: the offset where it stopped and the description of the fault. -/
structure SyntaxError where
  position : Nat
  description : String
  deriving Repr, BEq, DecidableEq

/-- Why a source could not be read: it breaks the grammar at a position, or reading it met a
fault. -/
inductive ReadError where
  | malformed (e : SyntaxError)
  | fault (f : Fault)
  deriving Repr, BEq

/-- Splits text into lines at each line feed, carriage return, or carriage return and line feed. -/
def splitLines (cs : List Char) : List (List Char) :=
  go cs []
where
  go : List Char → List Char → List (List Char)
    | [], acc => [acc.reverse]
    | '\r' :: '\n' :: rest, acc => acc.reverse :: go rest []
    | '\r' :: rest, acc => acc.reverse :: go rest []
    | '\n' :: rest, acc => acc.reverse :: go rest []
    | c :: rest, acc => go rest (c :: acc)

/-- Characters that end a line of text in the general sense, as when a block string is laid
out or an offset is located: line feed, carriage return, vertical tab, form feed, the information separators U+001C to U+001E, next line, and the
line and paragraph separators. -/
def isLineBoundary (c : Char) : Bool :=
  c == '\n' || c == '\r' || c == '\x0b' || c == '\x0c' || c == '\x1c' || c == '\x1d' ||
    c == '\x1e' || c == '\x85' || c == '\u2028' || c == '\u2029'

/-- The lines of a text, split at every line boundary, a carriage return and line feed counting
once; a final boundary starts no further line. -/
def textLines (cs : List Char) : List (List Char) :=
  go cs []
where
  go : List Char → List Char → List (List Char)
    | [], [] => []
    | [], acc => [acc.reverse]
    | '\r' :: '\n' :: rest, acc => acc.reverse :: go rest []
    | c :: rest, acc => if isLineBoundary c then acc.reverse :: go rest [] else go rest (c :: acc)

/-- The line and column of an offset, read off the lines of the text before it: as many lines
as that text has, and one past the length of its last line. When that text ends with a line
boundary, the offset is thus placed just after the end of the line the boundary closes. -/
def locate (body : List Char) (position : Nat) : Location :=
  match textLines (body.take position) with
  | [] => ⟨1, position + 1⟩
  | lines => ⟨lines.length, (lines.getLastD []).length + 1⟩

/-- Pads text on the left with blanks up to a width; longer text is kept whole. -/
def padLeft (width : Nat) (s : String) : String :=
  String.ofList (List.replicate (width - s.length) ' ') ++ s

/-- Cuts a line into consecutive chunks of a given length. -/
def chunks (size : Nat) (cs : List Char) : List (List Char) :=
  if size = 0 then [cs] else go cs cs.length
where
  go : List Char → Nat → List (List Char)
    | [], _ => []
    | cs, 0 => [cs]
    | cs, n + 1 => cs.take size :: go (cs.drop size) n

/-- Lines of an excerpt under right-aligned prefixes; a missing line is left out, an empty one
keeps its bare prefix. -/
def prefixedLines (rows : List (String × Option String)) : String :=
  let present := rows.filterMap fun (p, line) => line.map (p, ·)
  let width := present.foldl (fun w (p, _) => max w p.length) 0
  "\n".intercalate
    (present.map fun (p, line) => padLeft width p ++ (if line.isEmpty then "" else " " ++ line))

/-- The excerpt of a source at a location, headed by the source name, line and column. The
location counts every line boundary, while the excerpt splits lines at line feeds and carriage
returns only, so the located line may be missing: that is a fault. -/
def excerpt (name : String) (body : List Char) (loc : Location) : Except Fault String := do
  let lines := splitLines body
  let index := loc.line - 1
  let some located := lines[index]? | throw .listIndex
  let line := String.ofList located
  let header := s!"{name}:{loc.line}:{loc.column}\n"
  if line.length > 120 then
    let subLines := (chunks 80 line.toList).map String.ofList
    let subIndex := loc.column / 80
    let subColumn := loc.column % 80
    pure (header ++ prefixedLines
      ([(s!"{loc.line} |", some (subLines.getD 0 ""))]
        ++ ((subLines.drop 1).take subIndex).map (fun l => ("|", some l))
        ++ [("|", some (padLeft subColumn "^")),
            ("|", if subIndex + 1 < subLines.length then some (subLines.getD (subIndex + 1) "")
              else none)]))
  else
    pure (header ++ prefixedLines
      [(s!"{loc.line - 1} |",
          if index > 0 then some (String.ofList (lines.getD (index - 1) [])) else none),
        (s!"{loc.line} |", some line),
        ("|", some (padLeft loc.column "^")),
        (s!"{loc.line + 1} |",
          if index + 1 < lines.length then some (String.ofList (lines.getD (index + 1) []))
          else none)])

/-- The name under which a reader's source is shown in excerpts. -/
def requestName : String := "GraphQL request"

/-- The full text of a syntax error in a source: the description, then the located excerpt. -/
def SyntaxError.render (e : SyntaxError) (body : List Char) : Except Fault String := do
  pure (s!"Syntax Error: {e.description}\n\n" ++ (← excerpt requestName body (locate body e.position)))

end Federation.Syntax
