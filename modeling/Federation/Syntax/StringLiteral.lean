import Federation.Syntax.Lexer

/-!
# String literals

How a string value is written back as GraphQL text.

A quoted string escapes the quote, the backslash and every control character: the usual
one-letter escapes where they exist (`\b`, `\t`, `\n`, `\f`, `\r`), `\u00XX` otherwise, also for
the C1 controls U+007F to U+009F.

A block string is written in three quotes, with an escaped `\"""` for any triple quote inside. It
is spread over several lines (a line break after the opening and before the closing quotes) when
that reads better: when the text has several lines, is longer than 70 characters, or ends in a
quote, a backslash or an escaped triple quote. A single line that starts with a blank is kept on
the opening line, since a line break there would change the value.
-/

namespace Federation.Syntax

/-- The escape of a character inside a quoted string, if it needs one. -/
def escapeChar (c : Char) : Option String :=
  if c == '"' then some "\\\""
  else if c == '\\' then some "\\\\"
  else if c == '\x08' then some "\\b"
  else if c == '\t' then some "\\t"
  else if c == '\n' then some "\\n"
  else if c == '\x0c' then some "\\f"
  else if c == '\r' then some "\\r"
  else if c.toNat < 0x20 || (0x7F ≤ c.toNat && c.toNat ≤ 0x9F) then some ("\\u" ++ Lexer.hexCode c.toNat)
  else none

/-- A string value written as a quoted string. -/
def printString (s : String) : String :=
  "\"" ++ String.join (s.toList.map fun c => (escapeChar c).getD c.toString) ++ "\""

/-- The state of the scan that decides whether a text reads back from a block string. -/
structure BlockScan where
  emptyLine : Bool := true
  indented : Bool := false
  commonIndent : Bool := true
  seenNonEmptyLine : Bool := false

/-- Whether a text reads back unchanged from a block string: it has no control character other
than tab and line feed, no leading line break, no trailing empty line, and not every line
after a line break is indented (a block string drops such a common indentation). -/
def printableAsBlockString (value : String) : Bool :=
  value.isEmpty || go value.toList {}
where
  go : List Char → BlockScan → Bool
    | [], s => !s.emptyLine && !(s.commonIndent && s.seenNonEmptyLine)
    | c :: rest, s =>
      if c == '\n' then
        if s.emptyLine && !s.seenNonEmptyLine then false
        else go rest { s with seenNonEmptyLine := true, emptyLine := true, indented := false }
      else if c == ' ' || c == '\t' then go rest { s with indented := s.indented || s.emptyLine }
      else if c.toNat ≤ 0x0F then false
      else go rest { s with commonIndent := s.commonIndent && s.indented, emptyLine := false }

/-- Replaces every triple quote by an escaped one. -/
def escapeTripleQuotes : List Char → List Char
  | '"' :: '"' :: '"' :: rest => '\\' :: '"' :: '"' :: '"' :: escapeTripleQuotes rest
  | c :: rest => c :: escapeTripleQuotes rest
  | [] => []

/-- The lines a block string's text is laid out in: at least one. -/
def blockLines (escaped : List Char) : List (List Char) :=
  match textLines escaped with
  | [] => [[]]
  | ls => ls

/-- Whether a line starts with a blank or a tab. -/
def startsIndented : List Char → Bool
  | c :: _ => c == ' ' || c == '\t'
  | [] => false

/-- Where a printed block string breaks its line: after the opening quotes, and before the
closing quotes. -/
structure BlockBreaks where
  leading : Bool
  trailing : Bool

/-- Where a block string breaks its line. It is spread over several lines when its text has
several lines, is longer than 70 characters, or ends in a quote, a backslash or an escaped triple
quote; a single line that starts with a blank stays on the opening line, and text whose lines
after the first all start with a blank always starts on a line of its own. -/
def blockBreaks (value : String) : BlockBreaks :=
  let escaped := escapeTripleQuotes value.toList
  let lines := blockLines escaped
  let singleLine := lines.length == 1
  let forceLeadingNewLine := lines.length > 1 &&
    (lines.drop 1).all fun l => l.isEmpty || startsIndented l
  let trailingTripleQuotes := escaped.reverse.take 4 == ['"', '"', '"', '\\']
  let trailingQuote := value.toList.getLast? == some '"' && !trailingTripleQuotes
  let trailingSlash := value.toList.getLast? == some '\\'
  let forceTrailingNewLine := trailingQuote || trailingSlash
  let multipleLines := !singleLine || value.length > 70 || forceTrailingNewLine ||
    forceLeadingNewLine || trailingTripleQuotes
  let skipLeadingNewLine := singleLine && startsIndented value.toList
  ⟨(multipleLines && !skipLeadingNewLine) || forceLeadingNewLine,
    multipleLines || forceTrailingNewLine⟩

/-- A line break where the layout has one. -/
def lineBreak (b : Bool) : String := if b then "\n" else ""

/-- A string value written as a block string. -/
def printBlockString (value : String) : String :=
  let breaks := blockBreaks value
  "\"\"\"" ++ lineBreak breaks.leading ++ String.ofList (escapeTripleQuotes value.toList) ++
    lineBreak breaks.trailing ++ "\"\"\""

end Federation.Syntax
