import Federation.Yaml.Value
import Federation.Text.Blank
import Federation.Text.Decimal
import Federation.Text.Digits
import Federation.Text.Case

/-!
# Reading scalars

How the value of a scalar is read for its tag:

* integers drop underscores, take a sign, and are binary after `0b`, hexadecimal after `0x`, octal
  after another leading `0`, base 60 when they hold colons, and decimal otherwise;
* floats drop underscores and are read in lowercase, and are `.inf`, `.nan`, base 60 or
  decimal;
* booleans are the six words of YAML 1.1, read in lowercase;
* binary data is base 64, whose characters outside the alphabet are skipped and whose padding
  ends the data;
* timestamps are a day, or a day and a time with an optional fraction and zone.

Numbers are read the way a general-purpose number reader reads text: a decimal digit of any
script counts as the ASCII digit of its value, white space around the number is allowed, a
decimal integer may have at most 4300 digits, and a failure names the text that could not be
read. Failures of these readers are not YAML errors.
-/

namespace Federation.Yaml

/-- A failure of a value check, with its message. -/
def valueError (message : String) : YamlFailure := .crash "ValueError" message

/-- A failure to index an empty text. -/
def emptyIndexError : YamlFailure := .crash "IndexError" "string index out of range"

/-- The value of a digit in bases up to 36. -/
def digitOfChar (c : Char) : Option Nat :=
  if '0' ≤ c && c ≤ '9' then some (c.toNat - '0'.toNat)
  else if 'a' ≤ c && c ≤ 'z' then some (c.toNat - 'a'.toNat + 10)
  else if 'A' ≤ c && c ≤ 'Z' then some (c.toNat - 'A'.toNat + 10)
  else none

/-- The characters of a text as a number reader sees them: a character below U+007F as it is,
other white space as a blank, a decimal digit of any script as the ASCII digit of its value, and
any other character as a question mark, after which nothing more is seen. -/
def numberChars : List Char → List Char
  | [] => []
  | c :: cs =>
    if c.toNat < 0x7F then c :: numberChars cs
    else if Text.isBlank c then ' ' :: numberChars cs
    else match Text.decimalValue? c with
      | some d => Char.ofNat ('0'.toNat + d) :: numberChars cs
      | none => ['?']

/-- The white space a number reader skips around a number: the ASCII blank, tab, line feed,
vertical tab, form feed and carriage return. -/
def isNumberSpace (c : Char) : Bool := c == ' ' || ('\t' ≤ c && c ≤ '\r')

/-- The characters of a number's text as a number reader sees them, without the white space
at both ends. -/
def trimmedChars (s : String) : List Char :=
  (((numberChars s.toList).dropWhile isNumberSpace).reverse.dropWhile isNumberSpace).reverse

/-- The prefix a base may be written with. -/
def basePrefix (base : Nat) : Option Char :=
  if base == 2 then some 'b' else if base == 8 then some 'o' else if base == 16 then some 'x' else none

/-- The first 200 characters of a text. -/
def clip200 (s : String) : String := String.ofList (s.toList.take 200)

/-- Reads an integer in a base: blanks around it, a sign, the base's prefix, and at least one
digit of the base. A decimal integer of more than 4300 digits is refused. -/
def readInteger (text : String) (base : Nat) : Except YamlFailure Int := do
  let cs := trimmedChars text
  let (negative, cs) := match cs with
    | '-' :: r => (true, r)
    | '+' :: r => (false, r)
    | r => (false, r)
  let cs := match cs, basePrefix base with
    | '0' :: p :: r, some q => if p.toLower == q then r else cs
    | _, _ => cs
  let digits := cs.map digitOfChar
  let invalid := valueError ("invalid literal for int() with base " ++ toString base ++ ": " ++
    clip200 (Text.quoteText text))
  if cs.isEmpty || digits.any fun d => match d with | some v => v ≥ base | none => true then
    throw invalid
  if base == 10 && cs.length > 4300 then
    throw (valueError ("Exceeds the limit (4300 digits) for integer string conversion: value has " ++
      toString cs.length ++ " digits; use sys.set_int_max_str_digits() to increase the limit"))
  let n := digits.foldl (fun acc d => acc * base + d.getD 0) 0
  return if negative then -(n : Int) else n

/-- Whether a text is a decimal number: digits with an optional point and fraction (at least one
digit in all), then an optional exponent. -/
def isDecimalText (cs : List Char) : Bool :=
  let intPart := cs.takeWhile Char.isDigit
  let rest := cs.drop intPart.length
  let (fracPart, rest) := match rest with
    | '.' :: r => (r.takeWhile Char.isDigit, r.dropWhile Char.isDigit)
    | r => ([], r)
  let mantissaOk := !(intPart.isEmpty && fracPart.isEmpty)
  let exponentOk := match rest with
    | [] => true
    | c :: r =>
      (c == 'e' || c == 'E') &&
        let ds := match r with | '-' :: d => d | '+' :: d => d | d => d
        !ds.isEmpty && ds.all Char.isDigit
  mantissaOk && exponentOk

/-- Reads a float: blanks around it, a sign, then `inf`, `infinity`, `nan` in any case, or a
decimal number. -/
def readFloat (text : String) : Except YamlFailure Float := do
  let cs := trimmedChars text
  let (negative, cs) := match cs with
    | '-' :: r => (true, r)
    | '+' :: r => (false, r)
    | r => (false, r)
  let word := String.ofList (cs.map Char.toLower)
  let magnitude ←
    if word == "inf" || word == "infinity" then pure (1.0 / 0.0)
    else if word == "nan" then pure (0.0 / 0.0)
    else if isDecimalText cs then
      let t := String.ofList (cs.map fun c => if c == 'E' then 'e' else c)
      pure (Text.readDouble (if t.startsWith "." then "0" ++ t else t))
    else throw (valueError ("could not convert string to float: " ++ Text.quoteText text))
  return if negative then -magnitude else magnitude

/-- A text without its underscores. -/
def dropUnderscores (s : String) : String := String.ofList (s.toList.filter (· != '_'))

/-- The sign of a number's text, and the text after it. -/
def splitSign (value : String) : Except YamlFailure (Int × String) :=
  match value.toList with
  | [] => throw emptyIndexError
  | '-' :: r => pure (-1, String.ofList r)
  | '+' :: r => pure (1, String.ofList r)
  | _ => pure (1, value)

/-- The value of base 60 parts, most significant first. -/
def sexagesimal {α : Type} [Add α] [Mul α] [OfNat α 0] (ofNat : Nat → α) (parts : List α) : α :=
  (parts.reverse.foldl (fun (acc, base) part => (acc + part * ofNat base, base * 60)) ((0 : α), 1)).1

/-- Reads the value of an integer scalar. -/
def constructInt (text : String) : Except YamlFailure Int := do
  let (sign, value) ← splitSign (dropUnderscores text)
  if value == "0" then return 0
  else if value.startsWith "0b" then return sign * (← readInteger (String.ofList (value.toList.drop 2)) 2)
  else if value.startsWith "0x" then return sign * (← readInteger (String.ofList (value.toList.drop 2)) 16)
  else
    match value.toList with
    | [] => throw emptyIndexError
    | '0' :: _ => return sign * (← readInteger value 8)
    | _ =>
      if value.contains ':' then
        let parts ← (value.splitOn ":").mapM fun part => readInteger part 10
        return sign * sexagesimal (fun n => (n : Int)) parts
      else return sign * (← readInteger value 10)

/-- Reads the value of a float scalar. -/
def constructFloat (text : String) : Except YamlFailure Float := do
  let (sign, value) ← splitSign (Text.lowerText (dropUnderscores text))
  let signed (x : Float) : Float := if sign < 0 then -x else x
  if value == ".inf" then return signed (1.0 / 0.0)
  else if value == ".nan" then return 0.0 / 0.0
  else if value.contains ':' then
    let parts ← (value.splitOn ":").mapM readFloat
    return signed (sexagesimal Nat.toFloat parts)
  else return signed (← readFloat value)

/-- Reads the value of a boolean scalar. -/
def constructBool (text : String) : Except YamlFailure Bool :=
  let word := Text.lowerText text
  if word == "yes" || word == "true" || word == "on" then pure true
  else if word == "no" || word == "false" || word == "off" then pure false
  else throw (.crash "KeyError" (Text.quoteText word))

/-- The value of a base 64 character. -/
def base64Value (c : Char) : Option Nat :=
  if 'A' ≤ c && c ≤ 'Z' then some (c.toNat - 'A'.toNat)
  else if 'a' ≤ c && c ≤ 'z' then some (c.toNat - 'a'.toNat + 26)
  else if '0' ≤ c && c ≤ '9' then some (c.toNat - '0'.toNat + 52)
  else if c == '+' then some 62
  else if c == '/' then some 63
  else none

/-- The state of base 64 decoding: the bytes so far, the position in the group of four, the bits
left over and the padding seen. -/
structure Base64State where
  bytes : List UInt8 := []
  quadPos : Nat := 0
  leftover : Nat := 0
  pads : Nat := 0

/-- Decodes base 64 text: characters outside the alphabet are skipped, and padding after the
second character of a group ends the data. -/
def decodeBase64 (text : List Char) : Except String (List UInt8) :=
  go text {}
where
  go : List Char → Base64State → Except String (List UInt8)
    | [], s =>
      if s.quadPos == 0 then .ok s.bytes.reverse
      else if s.quadPos == 1 then
        .error ("Invalid base64-encoded string: number of data characters (" ++
          toString (s.bytes.length / 3 * 4 + 1) ++ ") cannot be 1 more than a multiple of 4")
      else .error "Incorrect padding"
    | c :: rest, s =>
      if c == '=' then
        if s.quadPos ≥ 2 && s.quadPos + (s.pads + 1) ≥ 4 then .ok s.bytes.reverse
        else go rest { s with pads := if s.quadPos ≥ 2 then s.pads + 1 else s.pads }
      else
        match base64Value c with
        | none => go rest s
        | some v =>
          let s := { s with pads := 0 }
          match s.quadPos with
          | 0 => go rest { s with quadPos := 1, leftover := v }
          | 1 => go rest { s with quadPos := 2, bytes := (s.leftover * 4 + v / 16).toUInt8 :: s.bytes,
                                   leftover := v % 16 }
          | 2 => go rest { s with quadPos := 3, bytes := (s.leftover * 16 + v / 4).toUInt8 :: s.bytes,
                                   leftover := v % 4 }
          | _ => go rest { s with quadPos := 0, bytes := (s.leftover * 64 + v).toUInt8 :: s.bytes,
                                   leftover := 0 }

/-- The message of a text that is not ASCII: where its first run of other characters is. -/
def asciiFailure (text : String) : Option String :=
  let cs := text.toList
  let start := (cs.takeWhile fun c => c.toNat < 128).length
  match cs.drop start with
  | [] => none
  | c :: rest =>
    let run := 1 + (rest.takeWhile fun c => c.toNat ≥ 128).length
    let n := c.toNat
    let shown :=
      if n < 0x100 then "\\x" ++ String.ofList (Text.hexDigits 2 n)
      else if n < 0x10000 then "\\u" ++ String.ofList (Text.hexDigits 4 n)
      else "\\U" ++ String.ofList (Text.hexDigits 8 n)
    if run == 1 then
      some ("'ascii' codec can't encode character '" ++ shown ++ "' in position " ++ toString start ++
        ": ordinal not in range(128)")
    else
      some ("'ascii' codec can't encode characters in position " ++ toString start ++ "-" ++
        toString (start + run - 1) ++ ": ordinal not in range(128)")

/-- The shape a timestamp's value must have to be read. -/
def timestampShape : Pattern :=
  let d := Pattern.digit
  let blanks := Pattern.oneOf " \t"
  Pattern.seq [d, d, d, d, Pattern.is '-', d, Pattern.opt d, Pattern.is '-', d, Pattern.opt d,
    Pattern.opt (Pattern.seq [Pattern.anyOf [Pattern.oneOf "Tt", Pattern.many1 blanks], d, Pattern.opt d,
      Pattern.is ':', d, d, Pattern.is ':', d, d, Pattern.opt (Pattern.seq [Pattern.is '.', Pattern.many d]),
      Pattern.opt (Pattern.seq [Pattern.many blanks,
        Pattern.anyOf [Pattern.is 'Z', Pattern.seq [Pattern.oneOf "-+", d, Pattern.opt d,
          Pattern.opt (Pattern.seq [Pattern.is ':', d, d])]]])])]

/-- The fields of a timestamp's text: year, month, day, and the time with its fraction and zone. -/
structure TimestampFields where
  year : Nat
  month : Nat
  day : Nat
  time : Option (Nat × Nat × Nat × List Char) := none
  /-- `Z`, or a sign with hours and optional minutes. -/
  zone : Option (Option (Char × Nat × Option Nat)) := none

/-- Reads the fields of a text of the timestamp shape, each part as long as it may be. -/
def timestampFields (cs : List Char) : TimestampFields :=
  let number (ds : List Char) : Nat := Text.digitValue ds
  let takeDigits (n : Nat) (cs : List Char) : List Char × List Char :=
    let ds := (cs.takeWhile Char.isDigit).take n
    (ds, cs.drop ds.length)
  let (year, cs) := takeDigits 4 cs
  let (month, cs) := takeDigits 2 (cs.drop 1)
  let (day, cs) := takeDigits 2 (cs.drop 1)
  let base : TimestampFields := ⟨number year, number month, number day, none, none⟩
  match cs with
  | [] | ['\n'] => base
  | c :: _ =>
    let cs := if c == 'T' || c == 't' then cs.drop 1 else cs.dropWhile fun c => c == ' ' || c == '\t'
    let (hour, cs) := takeDigits 2 cs
    let (minute, cs) := takeDigits 2 (cs.drop 1)
    let (second, cs) := takeDigits 2 (cs.drop 1)
    let (fraction, cs) := match cs with
      | '.' :: r => (r.takeWhile Char.isDigit, r.dropWhile Char.isDigit)
      | r => ([], r)
    let cs := cs.dropWhile fun c => c == ' ' || c == '\t'
    let zone := match cs with
      | 'Z' :: _ => some none
      | s :: r =>
        if s == '-' || s == '+' then
          let (h, r) := takeDigits 2 r
          let m := match r with
            | ':' :: r => some (number (r.take 2))
            | _ => none
          some (some (s, number h, m))
        else none
      | [] => none
    { base with time := some (number hour, number minute, number second, fraction), zone }

/-- The number of days of a month. -/
def daysInMonth (year month : Nat) : Nat :=
  if month == 2 then
    if year % 4 == 0 && (year % 100 != 0 || year % 400 == 0) then 29 else 28
  else if month == 4 || month == 6 || month == 9 || month == 11 then 30
  else 31

/-- Checks that a day exists. -/
def checkDate (year month day : Nat) : Except YamlFailure Unit := do
  if year < 1 || year > 9999 then throw (valueError ("year " ++ toString year ++ " is out of range"))
  if month < 1 || month > 12 then throw (valueError "month must be in 1..12")
  if day < 1 || day > daysInMonth year month then throw (valueError "day is out of range for month")

/-- How an offset of whole seconds is written: days and seconds within a day. -/
def offsetText (seconds : Int) : String :=
  let days := seconds / 86400
  let rest := seconds - days * 86400
  let parts := (if days != 0 then ["days=" ++ toString days] else []) ++
    (if rest != 0 then ["seconds=" ++ toString rest] else [])
  "datetime.timedelta(" ++ (if parts.isEmpty then "0" else ", ".intercalate parts) ++ ")"

/-- Reads the value of a timestamp scalar. -/
def constructTimestamp (text : String) : Except YamlFailure Timestamp := do
  if !Pattern.matchesLine timestampShape text then
    throw (.crash "AttributeError" "'NoneType' object has no attribute 'groupdict'")
  let f := timestampFields text.toList
  match f.time with
  | none =>
    checkDate f.year f.month f.day
    return { year := f.year, month := f.month, day := f.day }
  | some (hour, minute, second, fraction) =>
    let micro := Text.digitValue ((fraction.take 6) ++ List.replicate (6 - fraction.length) '0')
    let zoneOffset ← match f.zone with
      | none => pure none
      | some none => pure (some 0)
      | some (some (s, h, m)) =>
        let minutes : Int := (h * 60 + m.getD 0 : Nat)
        let minutes := if s == '-' then -minutes else minutes
        if minutes * 60 ≥ 86400 || minutes * 60 ≤ -86400 then
          throw (valueError ("offset must be a timedelta strictly between -timedelta(hours=24) and " ++
            "timedelta(hours=24), not " ++ offsetText (minutes * 60) ++ "."))
        pure (some minutes)
    checkDate f.year f.month f.day
    if hour > 23 then throw (valueError "hour must be in 0..23")
    if minute > 59 then throw (valueError "minute must be in 0..59")
    if second > 59 then throw (valueError "second must be in 0..59")
    return { year := f.year, month := f.month, day := f.day, clock := some (hour, minute, second, micro),
             zoneOffset }

end Federation.Yaml
