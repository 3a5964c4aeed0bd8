import Federation.Syntax.Token

/-!
# Lexer

Reads a GraphQL source, given as its characters, into a token stream. Blanks, commas, line
breaks, a byte order mark and comments separate tokens and are dropped. Names are ASCII letters,
digits and underscores, not starting with a digit. Numbers are integers with an optional
fraction and exponent; a number must not run into a name or a dot. Strings decode the escapes
`\"`, `\\`, `\/`, `\b`, `\f`, `\n`, `\r`, `\t`, `\uXXXX` (surrogate pairs joined) and `\u{X…}`.
Block strings keep their text but for `\"""`, and lose the indentation common to their lines
after the first, and their leading and trailing blank lines.

The first character that starts no token ends the stream with an error naming it.

Each point of the stream records how deep its scan reaches above the scanning step: three frames
for a punctuator or the end of input, four for a name, a number, a string, a block string or a
comment, five for a string once it has decoded an escape. An error is built eight frames above
the step that meets it: the scanning step itself for a character that starts no token, one
frame up for a malformed number or an unterminated string, two for a number missing its digits
or a malformed escape. Reading past the end of a string while decoding an escape reaches only as
far as the escape had got.
-/

namespace Federation.Syntax.Lexer

/-- An ASCII decimal digit. -/
def isDigit (c : Char) : Bool := '0' ≤ c && c ≤ '9'

/-- A character that may start a name: an ASCII letter or an underscore. -/
def isNameStart (c : Char) : Bool := ('A' ≤ c && c ≤ 'Z') || ('a' ≤ c && c ≤ 'z') || c == '_'

/-- A character that may continue a name. -/
def isNameContinue (c : Char) : Bool := isNameStart c || isDigit c

/-- The value of a hexadecimal digit of either case. -/
def hexValue (c : Char) : Option Nat :=
  if isDigit c then some (c.toNat - '0'.toNat)
  else if 'A' ≤ c && c ≤ 'F' then some (c.toNat - 'A'.toNat + 10)
  else if 'a' ≤ c && c ≤ 'f' then some (c.toNat - 'a'.toNat + 10)
  else none

/-- A code point that is a Unicode scalar value, that is, no surrogate. -/
def isScalar (n : Nat) : Bool := n ≤ 0xD7FF || (0xE000 ≤ n && n ≤ 0x10FFFF)

/-- Upper-case hexadecimal digits of a number, at least four of them. -/
def hexCode (n : Nat) : String :=
  let ds := (Nat.toDigits 16 n).map Char.toUpper
  String.ofList (List.replicate (4 - ds.length) '0' ++ ds)

/-- How a character is named in messages: printable ASCII in quotes, any other as `U+XXXX`,
and the end of input as `<EOF>`. -/
def describeChar : Option Char → String
  | none => "<EOF>"
  | some c =>
    if ' ' ≤ c && c ≤ '~' then (if c == '"' then "'\"'" else "'" ++ c.toString ++ "'")
    else "U+" ++ hexCode c.toNat

/-- The error for a number that continues with something other than a digit. -/
def expectedDigit (pos : Nat) (c : Option Char) : SyntaxError :=
  ⟨pos, "Invalid number, expected digit but got: " ++ describeChar c ++ "."⟩

/-- The count of one or more digits at the head of the input; a missing digit is an error met
two frames above the scanning step. -/
def readDigits (cs : List Char) (pos : Nat) : Except (SyntaxError × Nat) Nat :=
  match cs with
  | c :: _ => if isDigit c then pure (cs.takeWhile isDigit).length else throw (expectedDigit pos c, 10)
  | [] => throw (expectedDigit pos none, 10)

/-- The count of characters of an integer part without its sign at the head of the input: a
zero alone or one or more digits. A zero followed by a digit is an error met one frame above the
scanning step. -/
def readUnsignedPart (cs : List Char) (pos : Nat) : Except (SyntaxError × Nat) Nat :=
  match cs with
  | '0' :: c :: _ =>
    if isDigit c then
      throw (⟨pos + 1, "Invalid number, unexpected digit after 0: " ++ describeChar c ++ "."⟩, 9)
    else pure 1
  | ['0'] => pure 1
  | rest => readDigits rest pos

/-- The count of characters of a number's integer part at the head of the input: an optional
minus sign, then the part without it. -/
def readIntegerPart (cs : List Char) (pos : Nat) : Except (SyntaxError × Nat) Nat :=
  match cs with
  | '-' :: rest => do pure (1 + (← readUnsignedPart rest (pos + 1)))
  | _ => readUnsignedPart cs pos

/-- The count of characters of a number's fractional part at the head of the input, a dot and
one or more digits, and whether there is one. -/
def readFractionPart (cs : List Char) (pos : Nat) : Except (SyntaxError × Nat) (Nat × Bool) :=
  match cs with
  | '.' :: rest => do pure (1 + (← readDigits rest (pos + 1)), true)
  | _ => pure (0, false)

/-- The count of characters of a number's exponent at the head of the input, a letter `e` of
either case, an optional sign and one or more digits, and whether there is one. -/
def readExponentPart (cs : List Char) (pos : Nat) : Except (SyntaxError × Nat) (Nat × Bool) :=
  match cs with
  | e :: rest =>
    if e == 'e' || e == 'E' then do
      let sign := match rest with
        | c :: _ => if c == '+' || c == '-' then 1 else 0
        | [] => 0
      pure (1 + sign + (← readDigits (rest.drop sign) (pos + 1 + sign)), true)
    else pure (0, false)
  | [] => pure (0, false)

/-- Reads a number at the head of the input, which starts with a digit or a minus sign: its
integer part, fractional part and exponent; gives the token and the count of characters it
takes, or the error with the reach of building it. A number must not run into a dot or a
name. -/
def readNumber (cs : List Char) (start : Nat) : Except (SyntaxError × Nat) (Token × Nat) := do
  let n1 ← readIntegerPart cs start
  let (k2, fraction) ← readFractionPart (cs.drop n1) (start + n1)
  let n2 := n1 + k2
  let (k3, exponent) ← readExponentPart (cs.drop n2) (start + n2)
  let n3 := n2 + k3
  match cs.drop n3 with
  | c :: _ => if c == '.' || isNameStart c then throw (expectedDigit (start + n3) c, 9)
  | [] => pure ()
  let text := String.ofList (cs.take n3)
  pure (if fraction || exponent then .float text else .int text, n3)

/-- The character a one-letter escape stands for. -/
def simpleEscape : Char → Option Char
  | '"' => some '"'
  | '/' => some '/'
  | '\\' => some '\\'
  | 'b' => some '\x08'
  | 'f' => some '\x0c'
  | 'n' => some '\n'
  | 'r' => some '\r'
  | 't' => some '\t'
  | _ => none

/-- The value of the four hexadecimal digits at the head of the input, nothing when one of them
is not a digit. All four characters are read before any is judged, so fewer than four is a
fault. -/
def fourHex : List Char → Except Fault (Option Nat)
  | a :: b :: c :: d :: _ =>
    pure do pure ((← hexValue a) * 4096 + (← hexValue b) * 256 + (← hexValue c) * 16 + (← hexValue d))
  | _ => throw .textIndex

/-- Reads the digits of a braced escape after `\u{`: at most twelve characters in all, closed by
a brace, naming a scalar value with at least one digit. A failure gives how far it read. -/
def bracedEscape : List Char → Nat → Nat → Except Nat (Char × Nat)
  | rest, point, size =>
    if 12 ≤ size then .error size else
    match rest with
    | [] => .error (size + 1)
    | c :: r =>
      if c == '}' then
        if size + 1 < 5 || !isScalar point then .error (size + 1) else .ok (Char.ofNat point, size + 1)
      else match hexValue c with
        | some d => bracedEscape r (point * 16 + d) (size + 1)
        | none => .error (size + 1)

/-- Reads an escape sequence at a backslash; gives the character and the count of characters,
or the failure with how far above the scanning step it reaches. The character after the
backslash, and after `\u` the one after that, are read before the escape is judged, so an escape
cut off there by the end of input is a fault; so is a four-digit escape, or the second half of a
surrogate pair, with fewer than four characters left. A malformed escape is an error. -/
def readEscape (cs : List Char) (pos : Nat) : Except (ReadError × Nat) (Char × Nat) :=
  let invalidUnicode (n : Nat) : ReadError × Nat :=
    (.malformed ⟨pos, "Invalid Unicode escape sequence: '" ++ String.ofList (cs.take n) ++ "'."⟩, 10)
  let invalidCharacter : ReadError × Nat :=
    (.malformed ⟨pos, "Invalid character escape sequence: '" ++ String.ofList (cs.take 2) ++ "'."⟩, 10)
  let digits (rest : List Char) : Except (ReadError × Nat) (Option Nat) :=
    (fourHex rest).mapError fun f => (.fault f, 4)
  match cs with
  | ['\\'] => throw (.fault .textIndex, 2)
  | ['\\', 'u'] => throw (.fault .textIndex, 3)
  | '\\' :: 'u' :: '{' :: rest =>
    match bracedEscape rest 0 3 with
    | .ok r => pure r
    | .error n => throw (invalidUnicode n)
  | '\\' :: 'u' :: rest => do
    match ← digits rest with
    | some code =>
      if isScalar code then pure (Char.ofNat code, 6)
      else if 0xD800 ≤ code && code ≤ 0xDBFF then
        match rest.drop 4 with
        | '\\' :: 'u' :: more => do
          match ← digits more with
          | some low =>
            if 0xDC00 ≤ low && low ≤ 0xDFFF then
              pure (Char.ofNat (0x10000 + (code - 0xD800) * 1024 + (low - 0xDC00)), 12)
            else throw (invalidUnicode 6)
          | none => throw (invalidUnicode 6)
        | _ => throw (invalidUnicode 6)
      else throw (invalidUnicode 6)
    | none => throw (invalidUnicode 6)
  | '\\' :: c :: _ =>
    match simpleEscape c with
    | some d => pure (d, 2)
    | none => throw invalidCharacter
  | _ => throw invalidCharacter

/-- Reads a string after its opening quote, at most `fuel` steps, with the reach of its scan so
far; gives the value, the count of characters up to and including the closing quote, and the
reach of the whole scan, or the failure with its reach. A line break or the end of input leaves
the string unterminated. -/
def readString : Nat → List Char → Nat → List Char → Nat →
    Except (ReadError × Nat) (String × Nat × Nat)
  | 0, _, pos, _, _ => throw (.malformed ⟨pos, "Unterminated string."⟩, 9)
  | fuel + 1, cs, pos, acc, reach =>
    match cs with
    | [] => throw (.malformed ⟨pos, "Unterminated string."⟩, 9)
    | '"' :: _ => pure (String.ofList acc.reverse, 1, max reach 4)
    | '\r' :: _ | '\n' :: _ => throw (.malformed ⟨pos, "Unterminated string."⟩, 9)
    | '\\' :: _ => do
      let (c, n) ← (readEscape cs pos).mapError fun (e, r) => (e, max reach r)
      let (value, m, r) ← readString fuel (cs.drop n) (pos + n) (c :: acc) 5
      pure (value, n + m, r)
    | c :: rest => do
      let (value, m, r) ← readString fuel rest (pos + 1) (c :: acc) (max reach 2)
      pure (value, m + 1, r)

/-- Reads the raw lines of a block string after its opening quotes; gives them with the count of
characters up to and including the closing quotes. An escaped closing quote is kept unescaped. -/
def readBlockLines : List Char → Nat → List (List Char) → List Char →
    Except SyntaxError (List (List Char) × Nat)
  | [], pos, _, _ => throw ⟨pos, "Unterminated string."⟩
  | '"' :: '"' :: '"' :: _, _, lines, line => pure ((line.reverse :: lines).reverse, 3)
  | '\\' :: '"' :: '"' :: '"' :: rest, pos, lines, line => do
    let (ls, n) ← readBlockLines rest (pos + 4) lines ('"' :: '"' :: '"' :: line)
    pure (ls, n + 4)
  | '\r' :: '\n' :: rest, pos, lines, line => do
    let (ls, n) ← readBlockLines rest (pos + 2) (line.reverse :: lines) []
    pure (ls, n + 2)
  | '\r' :: rest, pos, lines, line | '\n' :: rest, pos, lines, line => do
    let (ls, n) ← readBlockLines rest (pos + 1) (line.reverse :: lines) []
    pure (ls, n + 1)
  | c :: rest, pos, lines, line => do
    let (ls, n) ← readBlockLines rest (pos + 1) lines (c :: line)
    pure (ls, n + 1)

/-- The count of blanks and tabs that start a line. -/
def indentOf (line : List Char) : Nat := (line.takeWhile fun c => c == ' ' || c == '\t').length

/-- A line of blanks and tabs only. -/
def isBlankLine (line : List Char) : Bool := line.all fun c => c == ' ' || c == '\t'

/-- The least indentation of the lines after the first that are not blank, if there are any. -/
def commonIndent (lines : List (List Char)) : Option Nat :=
  (((lines.drop 1).filter fun l => !isBlankLine l).map indentOf).min?

/-- The lines of a block string's value: the indentation common to all lines but the first is
removed from them (all of a line when no line after the first holds more than blanks), and
leading and trailing blank lines are dropped. -/
def dedentLines (lines : List (List Char)) : List (List Char) :=
  let cut := lines.take 1 ++ (lines.drop 1).map fun l => l.drop ((commonIndent lines).getD l.length)
  ((cut.dropWhile isBlankLine).reverse.dropWhile isBlankLine).reverse

/-- The value of a block string from its raw lines. -/
def blockValue (lines : List (List Char)) : String :=
  String.ofList ((dedentLines lines).intersperse ['\n']).flatten

/-- Scans lexemes from `pos`, at most `fuel` steps; every step takes at least one character.
`skipped` is the reach of the comments skipped since the last lexeme, which the next point of
the stream takes on. -/
def scanFrom : Nat → List Char → Nat → Nat → TokenStream
  | 0, _, pos, skipped => .eof pos (max skipped 3)
  | _ + 1, [], pos, skipped => .eof pos (max skipped 3)
  | fuel + 1, c :: rest, pos, skipped =>
    let lexeme (t : Token) (reach : Nat) : Lexeme := ⟨t, pos, max skipped reach⟩
    let failure (e : ReadError) (reach : Nat) : TokenStream := .error e (max skipped reach)
    if c == ' ' || c == '\t' || c == ',' || c == '\uFEFF' || c == '\n' || c == '\r' then
      scanFrom fuel rest (pos + 1) skipped
    else if c == '#' then
      let n := (rest.takeWhile fun d => d != '\r' && d != '\n').length
      scanFrom fuel (rest.drop n) (pos + 1 + n) (max skipped 4)
    else match Punctuator.ofChar? c with
    | some p => .cons (lexeme (.punct p) 3) (scanFrom fuel rest (pos + 1) 0)
    | none =>
      if isNameStart c then
        let n := (rest.takeWhile isNameContinue).length + 1
        .cons (lexeme (.name (String.ofList ((c :: rest).take n))) 4)
          (scanFrom fuel (rest.drop (n - 1)) (pos + n) 0)
      else if isDigit c || c == '-' then
        match readNumber (c :: rest) pos with
        | .ok (t, n) => .cons (lexeme t 4) (scanFrom fuel ((c :: rest).drop n) (pos + n) 0)
        | .error (e, reach) => failure (.malformed e) reach
      else if c == '.' then
        match rest with
        | '.' :: '.' :: more => .cons (lexeme (.punct .spread) 3) (scanFrom fuel more (pos + 3) 0)
        | _ => failure (.malformed ⟨pos, "Unexpected character: '.'."⟩) 8
      else if c == '"' then
        match rest with
        | '"' :: '"' :: more =>
          match readBlockLines more (pos + 3) [] [] with
          | .ok (lines, n) =>
            .cons (lexeme (.blockString (blockValue lines)) 4) (scanFrom fuel (more.drop n) (pos + 3 + n) 0)
          | .error e => failure (.malformed e) 9
        | _ =>
          match readString rest.length rest (pos + 1) [] 0 with
          | .ok (value, n, reach) => .cons (lexeme (.string value) reach) (scanFrom fuel (rest.drop n) (pos + 1 + n) 0)
          | .error (e, reach) => failure e reach
      else if c == '\'' then
        failure (.malformed ⟨pos, "Unexpected single quote character ('), did you mean to use a double quote (\")?"⟩) 8
      else failure (.malformed ⟨pos, "Unexpected character: " ++ describeChar c ++ "."⟩) 8

/-- The token stream of a source (graphql-core `Lexer`). -/
def scan (cs : List Char) : TokenStream := scanFrom (cs.length + 1) cs 0 0

end Federation.Syntax.Lexer
