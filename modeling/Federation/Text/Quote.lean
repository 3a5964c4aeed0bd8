import Federation.Text.Printable

/-!
# Quoted texts

Messages show a text the way an inspection of it reads: between single quotes, or between double
quotes when the text holds a single quote and no double quote. Inside, a backslash and the quote
are escaped, and so is every hidden character: line feed, carriage return and tab by their
letters, other characters below 256 as `\x` and two hexadecimal digits, the rest as `\u` and four
or `\U` and eight. Hidden characters are those that are not printable.
-/

namespace Federation.Text

/-- Whether a character is shown as an escape when a text is inspected: when it is not
printable. -/
def isHiddenChar (c : Char) : Bool := !isPrintable c

/-- The lowercase hexadecimal digits of a number, at least `width` of them. -/
def hexDigits (width n : Nat) : List Char :=
  let ds := Nat.toDigits 16 n
  List.replicate (width - ds.length) '0' ++ ds

/-- The escape of a hidden character. -/
def hiddenEscape (c : Char) : List Char :=
  let n := c.toNat
  if c == '\n' then ['\\', 'n'] else if c == '\t' then ['\\', 't'] else if c == '\r' then ['\\', 'r']
  else if n < 0x100 then ['\\', 'x'] ++ hexDigits 2 n
  else if n < 0x10000 then ['\\', 'u'] ++ hexDigits 4 n
  else ['\\', 'U'] ++ hexDigits 8 n

/-- A text quoted as an inspection shows it: in single quotes unless it holds a single quote
and no double quote, with backslashes, the quote and hidden characters escaped. -/
def quoteText (s : String) : String :=
  let q := if s.contains '\'' && !s.contains '"' then '"' else '\''
  let body := s.toList.flatMap fun c =>
    if c == q || c == '\\' then ['\\', c]
    else if isHiddenChar c then hiddenEscape c else [c]
  String.ofList (q :: body ++ [q])

end Federation.Text
