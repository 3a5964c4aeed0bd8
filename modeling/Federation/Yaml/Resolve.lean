import Federation.Yaml.Pattern

/-!
# Resolving the tags of plain scalars

A scalar without a tag (or with the non-specific tag `!`) whose value may be read implicitly gets
the tag of the first shape its value has, among those that may start with its first character:
booleans (`yes`, `no`, `true`, `false`, `on`, `off` in three cases), floats (with `.inf` and
`.nan`, and base 60 as in `1:30.5`), integers (binary `0b`, octal `0`, decimal, hexadecimal `0x`,
base 60), the merge key `<<`, null (`~`, `null`, the empty value), timestamps, the value key `=`
and the indicators `!`, `&`, `*`. Anything else is a string, as is every collection its default
sequence or mapping tag.
-/

namespace Federation.Yaml

open Pattern

/-- The full name of a tag of the YAML repository. -/
def yamlTag (name : String) : String := "tag:yaml.org,2002:" ++ name

/-- A digit or an underscore. -/
def digitOrUnderscore : Pattern := char fun c => c.isDigit || c == '_'

/-- An optional sign. -/
def signPattern : Pattern := opt (oneOf "-+")

/-- A part of a base 60 number after a colon. -/
def sexagesimalPart : Pattern := seq [is ':', opt (oneOf "012345"), digit]

/-- The booleans of YAML 1.1. -/
def boolPattern : Pattern :=
  anyOf (["yes", "Yes", "YES", "no", "No", "NO", "true", "True", "TRUE", "false", "False", "FALSE",
    "on", "On", "ON", "off", "Off", "OFF"].map text)

/-- Floats: decimal with a point, base 60 with a point, infinities and not-a-number. -/
def floatPattern : Pattern :=
  let exponent := opt (seq [oneOf "eE", oneOf "-+", many1 digit])
  anyOf [
    seq [signPattern, digit, many digitOrUnderscore, is '.', many digitOrUnderscore, exponent],
    seq [is '.', digit, many digitOrUnderscore, exponent],
    seq [signPattern, digit, many digitOrUnderscore, many1 sexagesimalPart, is '.', many digitOrUnderscore],
    seq [signPattern, is '.', anyOf [text "inf", text "Inf", text "INF"]],
    seq [is '.', anyOf [text "nan", text "NaN", text "NAN"]]]

/-- Integers: binary, octal, decimal, hexadecimal and base 60. -/
def intPattern : Pattern :=
  anyOf [
    seq [signPattern, text "0b", many1 (oneOf "01_")],
    seq [signPattern, is '0', many1 (oneOf "01234567_")],
    seq [signPattern, anyOf [is '0', seq [oneOf "123456789", many digitOrUnderscore]]],
    seq [signPattern, text "0x", many1 (char fun c => c.isDigit || ('a' ≤ c && c ≤ 'f') || ('A' ≤ c && c ≤ 'F') || c == '_')],
    seq [signPattern, oneOf "123456789", many digitOrUnderscore, many1 sexagesimalPart]]

/-- Timestamps: a date, or a date and a time with an optional fraction and zone. -/
def timestampPattern : Pattern :=
  anyOf [
    seq [digit, digit, digit, digit, is '-', digit, digit, is '-', digit, digit],
    seq [digit, digit, digit, digit, is '-', digit, opt digit, is '-', digit, opt digit,
      anyOf [oneOf "Tt", many1 (oneOf " \t")], digit, opt digit, is ':', digit, digit, is ':', digit, digit,
      opt (seq [is '.', many digit]),
      opt (seq [many (oneOf " \t"),
        anyOf [is 'Z', seq [oneOf "-+", digit, opt digit, opt (seq [is ':', digit, digit])]]])]]

/-- Null: a tilde, `null` in three cases, or nothing. -/
def nullPattern : Pattern := anyOf [is '~', text "null", text "Null", text "NULL", empty]

/-- An implicit shape: the characters its values may start with, its tag and its pattern. -/
structure ImplicitShape where
  firsts : List Char
  tag : String
  pattern : Pattern

/-- The implicit shapes, in the order they are tried. -/
def implicitShapes : List ImplicitShape :=
  [⟨"yYnNtTfFoO".toList, yamlTag "bool", boolPattern⟩,
   ⟨"-+0123456789.".toList, yamlTag "float", floatPattern⟩,
   ⟨"-+0123456789".toList, yamlTag "int", intPattern⟩,
   ⟨['<'], yamlTag "merge", text "<<"⟩,
   ⟨"~nN".toList, yamlTag "null", nullPattern⟩,
   ⟨"0123456789".toList, yamlTag "timestamp", timestampPattern⟩,
   ⟨['='], yamlTag "value", is '='⟩,
   ⟨"!&*".toList, yamlTag "yaml", oneOf "!&*"⟩]

/-- The tag of a scalar: the first implicit shape its value has when it may be read implicitly,
else the string tag. The empty value is null (PyYAML `Resolver.resolve`). -/
def resolveScalar (value : String) (implicit : Bool) : String :=
  if !implicit then yamlTag "str"
  else
    match value.toList with
    | [] => yamlTag "null"
    | c :: _ =>
      match implicitShapes.find? fun shape => shape.firsts.contains c && matchesLine shape.pattern value with
      | some shape => shape.tag
      | none => yamlTag "str"

end Federation.Yaml
