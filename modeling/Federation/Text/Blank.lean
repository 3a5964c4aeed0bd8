/-!
# Blank characters

The characters that count as blank when a name or a path is trimmed: the Unicode white space
characters together with the information separators U+001C to U+001F, which also mark the end
of a field of text.
-/

namespace Federation.Text

/-- A blank character: an ASCII blank or control separator, or Unicode white space. -/
def isBlank (c : Char) : Bool :=
  let n := c.toNat
  (0x09 ≤ n && n ≤ 0x0D) || (0x1C ≤ n && n ≤ 0x20) || n == 0x85 || n == 0xA0 || n == 0x1680 ||
    (0x2000 ≤ n && n ≤ 0x200A) || n == 0x2028 || n == 0x2029 || n == 0x202F || n == 0x205F ||
    n == 0x3000

/-- A text without its leading and trailing blank characters. -/
def trimBlanks (s : String) : String :=
  String.ofList ((s.toList.dropWhile isBlank).reverse.dropWhile isBlank).reverse

end Federation.Text
