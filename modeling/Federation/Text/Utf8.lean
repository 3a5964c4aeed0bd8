import Federation.Text.Quote

/-!
# Decoding UTF-8

Bytes decode as UTF-8 when they form a sequence of well-formed encodings: one byte below 0x80;
or a lead byte from 0xC2 to 0xF4 followed by one to three continuation bytes (0x80 to 0xBF),
where the second byte after 0xE0 is at least 0xA0, after 0xED below 0xA0 (no surrogates), after
0xF0 at least 0x90 and after 0xF4 below 0x90 (nothing above U+10FFFF).

Decoding stops at the first sequence that is not well formed and names it: a byte that cannot
start a sequence, a sequence whose next byte does not continue it (the bytes before that byte are
named), or a sequence cut off by the end of the data (all the remaining bytes are named).
-/

namespace Federation.Text

/-- Why bytes do not decode: the reason, and the offsets of the first byte named and of the byte
after the last one named. -/
structure Utf8Error where
  reason : String
  start : Nat
  stop : Nat
  deriving Repr, BEq, DecidableEq

/-- The message of a decoding error of some bytes: a single byte is shown in hexadecimal with its
position, several bytes by their range of positions. -/
def Utf8Error.message (e : Utf8Error) (bytes : List Nat) : String :=
  if e.stop == e.start + 1 then
    "'utf-8' codec can't decode byte 0x" ++ String.ofList (hexDigits 2 (bytes.getD e.start 0)) ++
      " in position " ++ toString e.start ++ ": " ++ e.reason
  else
    "'utf-8' codec can't decode bytes in position " ++ toString e.start ++ "-" ++
      toString (e.stop - 1) ++ ": " ++ e.reason

/-- Whether a byte continues a sequence. -/
def isContinuation (b : Nat) : Bool := 0x80 ≤ b && b < 0xC0

/-- Whether the byte after a lead byte continues its sequence, with the narrower ranges after
0xE0, 0xED, 0xF0 and 0xF4. -/
def secondFits (lead b : Nat) : Bool :=
  isContinuation b &&
    (if lead == 0xE0 then 0xA0 ≤ b
     else if lead == 0xED then b < 0xA0
     else if lead == 0xF0 then 0x90 ≤ b
     else if lead == 0xF4 then b < 0x90
     else true)

/-- The code point of a lead byte and its continuation bytes. -/
def codePoint (lead : Nat) (rest : List Nat) : Nat :=
  let bits := if lead < 0xE0 then lead % 0x20 else if lead < 0xF0 then lead % 0x10 else lead % 0x08
  rest.foldl (fun acc b => acc * 64 + b % 64) bits

/-- The length of the sequence a lead byte starts, if it can start one. -/
def sequenceLength (lead : Nat) : Option Nat :=
  if lead < 0x80 then some 1
  else if lead < 0xC2 then none
  else if lead < 0xE0 then some 2
  else if lead < 0xF0 then some 3
  else if lead < 0xF5 then some 4
  else none

/-- How many of the bytes after a lead byte continue its sequence, up to the count it needs:
the first must fall in the lead byte's range, the others be continuation bytes. -/
def fittingContinuations (lead : Nat) (rest : List Nat) (need : Nat) : Nat :=
  match rest.take need with
  | [] => 0
  | b :: more => if secondFits lead b then 1 + (more.takeWhile isContinuation).length else 0

/-- Decodes bytes from an offset in at most `fuel` steps, with the characters decoded so far,
nearest first; every step takes at least one byte. -/
def decodeFrom : Nat → List Nat → Nat → List Char → Except Utf8Error (List Char)
  | _, [], _, acc => .ok acc.reverse
  | 0, _ :: _, pos, _ => .error ⟨"unexpected end of data", pos, pos + 1⟩
  | fuel + 1, lead :: rest, pos, acc =>
    match sequenceLength lead with
    | none => .error ⟨"invalid start byte", pos, pos + 1⟩
    | some n =>
      let fit := fittingContinuations lead rest (n - 1)
      if fit + 1 == n then
        let c := if n == 1 then lead else codePoint lead (rest.take (n - 1))
        decodeFrom fuel (rest.drop (n - 1)) (pos + n) (Char.ofNat c :: acc)
      else if fit == rest.length then .error ⟨"unexpected end of data", pos, pos + 1 + rest.length⟩
      else .error ⟨"invalid continuation byte", pos, pos + 1 + fit⟩

/-- The text some bytes encode in UTF-8, or why they do not. -/
def decodeUtf8 (bytes : List Nat) : Except Utf8Error String :=
  (decodeFrom (bytes.length + 1) bytes 0 []).map String.ofList

/-- The error of bytes that do not decode, if they do not. -/
def utf8Error? (bytes : List Nat) : Option Utf8Error :=
  match decodeUtf8 bytes with
  | .ok _ => none
  | .error e => some e

example : (decodeUtf8 [0x41, 0xC3, 0xA9]).toOption = some "A\u00e9" := by decide
example : utf8Error? [0xED, 0xA0, 0x80] = some ⟨"invalid continuation byte", 0, 1⟩ := by decide
example : utf8Error? [0x41, 0xFE, 0x42] = some ⟨"invalid start byte", 1, 2⟩ := by decide
example : utf8Error? [0xE1, 0x80] = some ⟨"unexpected end of data", 0, 2⟩ := by decide

end Federation.Text
