/-!
# Text patterns

A small language of patterns over characters, enough for the shapes YAML gives plain scalars:
a pattern matches a prefix of a text in any number of ways, and gives the rest of the text for
each way. Alternatives and repetition try every way, so a pattern matches a text exactly when
some way consumes all of it.

A text matches a line pattern when the pattern matches all of it, or all of it but one final
line feed: the way an anchored regular expression treats the end of a text.
-/

namespace Federation.Yaml

/-- A pattern: for a text, the rests of the text after each way it matches a prefix. -/
abbrev Pattern := List Char → List (List Char)

namespace Pattern

/-- One character that passes a test. -/
def char (p : Char → Bool) : Pattern
  | c :: rest => if p c then [rest] else []
  | [] => []

/-- One given character. -/
def is (c : Char) : Pattern := char (· == c)

/-- Nothing: matches the empty prefix. -/
def empty : Pattern := fun s => [s]

/-- One pattern after another. -/
def andThen (a b : Pattern) : Pattern := fun s => (a s).flatMap b

/-- Patterns one after another. -/
def seq (ps : List Pattern) : Pattern := ps.foldr andThen empty

/-- A given text. -/
def text (t : String) : Pattern := seq (t.toList.map is)

/-- Either of patterns. -/
def anyOf (ps : List Pattern) : Pattern := fun s => ps.flatMap (· s)

/-- A pattern or nothing. -/
def opt (a : Pattern) : Pattern := anyOf [a, empty]

/-- A pattern repeated at most `fuel` times; only ways that consume count as repetitions. -/
def repeatUpTo (a : Pattern) : Nat → Pattern
  | 0 => empty
  | fuel + 1 => fun s => s :: ((a s).filter (·.length < s.length)).flatMap (repeatUpTo a fuel)

/-- A pattern repeated any number of times, none included. -/
def many (a : Pattern) : Pattern := fun s => repeatUpTo a s.length s

/-- A pattern repeated at least once. -/
def many1 (a : Pattern) : Pattern := andThen a (many a)

/-- A decimal digit. -/
def digit : Pattern := char Char.isDigit

/-- A character of a set. -/
def oneOf (cs : String) : Pattern := char fun c => cs.toList.contains c

/-- Whether a pattern matches all of a text. -/
def matchesAll (p : Pattern) (s : List Char) : Bool := (p s).any List.isEmpty

/-- Whether a pattern matches a text as an anchored line: all of it, or all but a final line
feed. -/
def matchesLine (p : Pattern) (s : String) : Bool :=
  let cs := s.toList
  matchesAll p cs || (cs.getLast? == some '\n' && matchesAll p cs.dropLast)

end Pattern

end Federation.Yaml
