/-!
# JSON values

The values of reports, and their text as a metadata file holds it: indented by two spaces per
level, one member or item per line, a colon and a blank between a name and its value, and
empty objects and arrays as `{}` and `[]`.

Strings are written between double quotes. A double quote, a backslash and the control
characters are escaped; when only ASCII may be written, every character outside the printable
ASCII range is escaped too, as one `\u` escape of four lowercase hexadecimal digits, or two (a
surrogate pair) beyond the basic plane.
-/

namespace Federation

/-- A JSON value; the members of an object keep their order. -/
inductive JsonValue where
  | null
  | bool (b : Bool)
  | num (n : Int)
  | str (s : String)
  | arr (items : List JsonValue)
  | obj (fields : List (String × JsonValue))
  deriving Repr, Inhabited

namespace JsonValue

/-- A string, or null for none. -/
def ofOption : Option String → JsonValue
  | some s => .str s
  | none => .null

/-- An array of strings. -/
def ofStrings (xs : List String) : JsonValue := .arr (xs.map .str)

/-- The four lowercase hexadecimal digits of a code unit. -/
def hex4 (n : Nat) : String :=
  let ds := Nat.toDigits 16 n
  String.ofList (List.replicate (4 - ds.length) '0' ++ ds)

/-- The `\u` escape of a character: one code unit, or a surrogate pair beyond the basic plane. -/
def unicodeEscape (c : Char) : String :=
  let n := c.toNat
  if n < 0x10000 then "\\u" ++ hex4 n
  else
    let m := n - 0x10000
    "\\u" ++ hex4 (0xd800 + m / 0x400) ++ "\\u" ++ hex4 (0xdc00 + m % 0x400)

/-- The text of a character inside a string. -/
def escapeChar (asciiOnly : Bool) (c : Char) : String :=
  match c with
  | '"' => "\\\""
  | '\\' => "\\\\"
  | '\n' => "\\n"
  | '\r' => "\\r"
  | '\t' => "\\t"
  | '\x08' => "\\b"
  | '\x0c' => "\\f"
  | c =>
    if c.toNat < 0x20 then unicodeEscape c
    else if asciiOnly && c.toNat > 0x7e then unicodeEscape c
    else c.toString

/-- A string between double quotes. -/
def quote (asciiOnly : Bool) (s : String) : String :=
  "\"" ++ String.join (s.toList.map (escapeChar asciiOnly)) ++ "\""

/-- The indentation of a level. -/
def pad (n : Nat) : String := String.ofList (List.replicate n ' ')

/-- The indented text of a value whose first line stands at `indent`. -/
def render (asciiOnly : Bool) (indent : Nat) : JsonValue → String
  | .null => "null"
  | .bool b => if b then "true" else "false"
  | .num n => toString n
  | .str s => quote asciiOnly s
  | .arr [] => "[]"
  | .arr items =>
    "[\n" ++ ",\n".intercalate (renderItems asciiOnly (indent + 2) items) ++ "\n" ++ pad indent ++ "]"
  | .obj [] => "\x7b\x7d"
  | .obj fields =>
    "\x7b\n" ++ ",\n".intercalate (renderFields asciiOnly (indent + 2) fields) ++ "\n" ++ pad indent ++
      "\x7d"
where
  renderItems (asciiOnly : Bool) (indent : Nat) : List JsonValue → List String
    | [] => []
    | v :: vs => (pad indent ++ render asciiOnly indent v) :: renderItems asciiOnly indent vs
  renderFields (asciiOnly : Bool) (indent : Nat) : List (String × JsonValue) → List String
    | [] => []
    | (k, v) :: fs =>
      (pad indent ++ quote asciiOnly k ++ ": " ++ render asciiOnly indent v) ::
        renderFields asciiOnly indent fs

/-- The text of a value as a metadata file holds it: indented, ASCII only. -/
def pretty (v : JsonValue) : String := render true 0 v

end JsonValue

end Federation
