import Federation.Syntax.Location

/-!
# Tokens

The lexical units of GraphQL: punctuators, names, numbers and strings, and the end of input.
A lexeme is a token with the offset where it starts. A token stream is what reading a source
yields: lexemes in order, ended either by the end of input or by the first lexical error, which
a reader meets only when it moves onto that point.

Each token has a description used in error messages: a punctuator is quoted, a name, number or
string is its kind followed by its quoted value.

Scanning a token runs on the reader's call stack, and each point of the stream records its
reach: how many frames above the scanning step the scan of that point goes, comments skipped on
the way included. A punctuator or the end of input is made at once; a name, number, string or
comment is read character by character a frame deeper; an escape in a string is decoded deeper
still; and a lexical error is built deepest of all.
-/

namespace Federation.Syntax

/-- The punctuators of GraphQL. -/
inductive Punctuator where
  | bang | dollar | amp | parenL | parenR | spread | colon | equals | atSign
  | bracketL | bracketR | braceL | pipe | braceR
  deriving Repr, BEq, DecidableEq

/-- The text of a punctuator. -/
def Punctuator.text : Punctuator → String
  | .bang => "!"
  | .dollar => "$"
  | .amp => "&"
  | .parenL => "("
  | .parenR => ")"
  | .spread => "..."
  | .colon => ":"
  | .equals => "="
  | .atSign => "@"
  | .bracketL => "["
  | .bracketR => "]"
  | .braceL => "\x7b"
  | .pipe => "|"
  | .braceR => "\x7d"

/-- The single-character punctuator a character stands for, if any. -/
def Punctuator.ofChar? : Char → Option Punctuator
  | '!' => some .bang
  | '$' => some .dollar
  | '&' => some .amp
  | '(' => some .parenL
  | ')' => some .parenR
  | ':' => some .colon
  | '=' => some .equals
  | '@' => some .atSign
  | '[' => some .bracketL
  | ']' => some .bracketR
  | '{' => some .braceL
  | '|' => some .pipe
  | '}' => some .braceR
  | _ => none

/-- A token with its value: names and numbers keep their text, strings their decoded value. -/
inductive Token where
  | punct (p : Punctuator)
  | name (value : String)
  | int (text : String)
  | float (text : String)
  | string (value : String)
  | blockString (value : String)
  | eof
  deriving Repr, BEq, DecidableEq

/-- The kinds of tokens, as a reader expects them. -/
inductive TokenKind where
  | punct (p : Punctuator)
  | name | int | float | string | blockString | eof
  deriving Repr, BEq, DecidableEq

/-- The kind of a token. -/
def Token.kind : Token → TokenKind
  | .punct p => .punct p
  | .name _ => .name
  | .int _ => .int
  | .float _ => .float
  | .string _ => .string
  | .blockString _ => .blockString
  | .eof => .eof

/-- How a kind of token is named in messages: a punctuator quoted, the others by kind. -/
def TokenKind.describe : TokenKind → String
  | .punct p => "'" ++ p.text ++ "'"
  | .name => "Name"
  | .int => "Int"
  | .float => "Float"
  | .string => "String"
  | .blockString => "BlockString"
  | .eof => "<EOF>"

/-- The value a token carries, if it carries one. -/
def Token.value? : Token → Option String
  | .name v | .int v | .float v | .string v | .blockString v => some v
  | .punct _ | .eof => none

/-- How a token is named in messages: its kind, then its quoted value if it has one. -/
def Token.describe (t : Token) : String :=
  t.kind.describe ++ match t.value? with
    | some v => " '" ++ v ++ "'"
    | none => ""

/-- A token, the offset of its first character, and how many frames above the scanning step
scanning it reaches. -/
structure Lexeme where
  token : Token
  start : Nat
  reach : Nat := 3
  deriving Repr, BEq, DecidableEq

/-- The lexemes of a source in order, ended by the end of input or by a lexical error or fault,
each end with the reach of scanning it. -/
inductive TokenStream where
  | eof (position : Nat) (reach : Nat)
  | error (e : ReadError) (reach : Nat)
  | cons (lexeme : Lexeme) (rest : TokenStream)
  deriving Repr, BEq

/-- The reach of scanning the first point of a stream. -/
def TokenStream.reach : TokenStream → Nat
  | .cons l _ => l.reach
  | .eof _ r | .error _ r => r

/-- The number of lexemes before the end of a stream. -/
def TokenStream.length : TokenStream → Nat
  | .eof _ _ | .error _ _ => 0
  | .cons _ rest => rest.length + 1

end Federation.Syntax
