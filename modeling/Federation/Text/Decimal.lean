/-!
# Shortest decimal text of a double

A finite double is written with the fewest significant digits that read back as the same
double, and of two such digit strings the one nearer to the double's exact value.

A positive double is `m · 2^e`. The doubles next to it bound the interval of reals that read
back as it, the ends included when `m` is even (a tie reads as the even significand). For each
count of digits `k` from 1 to 17, the two `k`-digit decimals around the value are tested for
membership in the interval, in exact natural-number arithmetic; the first count with a hit
wins.

The written form puts the digits positionally when the decimal point falls within sixteen
places after the first digit and no more than four zeros before it, and in exponent form
otherwise, with a signed exponent of at least two digits. A whole number keeps `.0`.
-/

namespace Federation.Text

/-- The significand and binary exponent of a finite non-negative double, `m · 2^e`, with the
flag telling whether the double below it is nearer than the one above (the significand is a
power of two above the least normal exponent). -/
def decodeDouble (x : Float) : Nat × Int × Bool :=
  let bits := x.toBits.toNat
  let expBits : Nat := (bits / Nat.pow 2 52) % 2048
  let frac : Nat := bits % Nat.pow 2 52
  if expBits = 0 then (frac, -1074, false)
  else (frac + Nat.pow 2 52, (expBits : Int) - 1075, frac = 0 && expBits > 1)

/-- Two to a power that may be negative, as a fraction `num / den` in lowest terms of the
form `2^a / 2^b`. -/
def pow2 (e : Int) : Nat × Nat :=
  if e ≥ 0 then (Nat.pow 2 e.toNat, 1) else (1, Nat.pow 2 (-e).toNat)

/-- Ten to a power that may be negative, as a fraction. -/
def pow10 (e : Int) : Nat × Nat :=
  if e ≥ 0 then (Nat.pow 10 e.toNat, 1) else (1, Nat.pow 10 (-e).toNat)

/-- Compares two fractions `a/b ≤ c/d` with positive denominators. -/
def fracLe (a b c d : Nat) : Bool := a * d ≤ c * b

/-- Compares two fractions `a/b < c/d` with positive denominators. -/
def fracLt (a b c d : Nat) : Bool := a * d < c * b

/-- The largest `D` with `10^D ≤ m · 2^e`, found from an estimate by at most a few steps. -/
def decimalExponent (m : Nat) (e : Int) : Int :=
  let (vn, vd) := let (a, b) := pow2 e; (m * a, b)
  let atMost (d : Int) : Bool := let (a, b) := pow10 d; fracLe a b vn vd
  let estimate : Int := ((Nat.log2 m : Int) + e) * 30103 / 100000
  let up := [estimate - 2, estimate - 1, estimate, estimate + 1, estimate + 2].filter atMost
  up.foldl max (estimate - 3)

/-- The shortest digits of a positive double and the exponent of their last digit: the
double reads back from `d · 10^p`. -/
def shortestDigits (x : Float) : Nat × Int :=
  let (m, e, lowerCloser) := decodeDouble x
  -- value and interval ends in units of 2^(e-2)
  let (qn, qd) := pow2 (e - 2)
  let v := 4 * m
  let lo := if lowerCloser then 4 * m - 1 else 4 * m - 2
  let hi := 4 * m + 2
  let inclusive := m % 2 == 0
  let D := decimalExponent m e
  let inside (d : Nat) (p : Int) : Bool :=
    let (tn, td) := pow10 p
    -- candidate d · 10^p against the ends lo · q and hi · q
    let c := d * tn
    let lowOk := if inclusive then fracLe (lo * qn) qd c td else fracLt (lo * qn) qd c td
    let highOk := if inclusive then fracLe c td (hi * qn) qd else fracLt c td (hi * qn) qd
    lowOk && highOk
  let attempt (k : Nat) : Option (Nat × Int) :=
    let p := D - (k : Int) + 1
    let (tn, td) := pow10 p
    -- d_low = floor(v·q / 10^p)
    let dLow := (v * qn * td) / (qd * tn)
    let dHigh := dLow + 1
    match inside dLow p, inside dHigh p with
    | true, true =>
      -- the nearer of the two; a tie goes to the even one
      let below := v * qn * td - dLow * tn * qd
      let above := dHigh * tn * qd - v * qn * td
      if below < above then some (dLow, p)
      else if above < below then some (dHigh, p)
      else if dLow % 2 == 0 then some (dLow, p) else some (dHigh, p)
    | true, false => some (dLow, p)
    | false, true => some (dHigh, p)
    | false, false => none
  match (List.range 17).findSome? (fun i => attempt (i + 1)) with
  | some r => r
  | none => (v * qn / qd / 4, 0)

/-- Digits and exponent without trailing zeros in the digits. -/
def trimZeros : Nat → Nat → Int → Nat × Int
  | 0, d, p => (d, p)
  | fuel + 1, d, p => if d > 0 && d % 10 == 0 then trimZeros fuel (d / 10) (p + 1) else (d, p)

/-- The digits of a natural number. -/
def digitsOf (n : Nat) : String := toString n

/-- The written form of a double: the shortest digits, positional or in exponent form. -/
def doubleText (x : Float) : String :=
  if x.isNaN then "nan"
  else if x.isInf then (if x < 0 then "-inf" else "inf")
  else
    let negative := x.toBits.toNat ≥ Nat.pow 2 63
    let sign := if negative then "-" else ""
    let a := if negative then -x else x
    if a == 0 then sign ++ "0.0" else
    let (d0, p0) := shortestDigits a
    let (d, p) := trimZeros 20 d0 p0
    let s := digitsOf d
    let n := s.length
    let decpt : Int := p + n
    if decpt ≤ -4 || decpt > 16 then
      let exp := decpt - 1
      let mantissa := if n > 1 then String.ofList (s.toList.take 1) ++ "." ++ String.ofList (s.toList.drop 1) else s
      let expDigits := toString exp.natAbs
      let expText := (if exp < 0 then "-" else "+") ++ (if expDigits.length < 2 then "0" ++ expDigits else expDigits)
      sign ++ mantissa ++ "e" ++ expText
    else if decpt ≤ 0 then
      sign ++ "0." ++ String.ofList (List.replicate (-decpt).toNat '0') ++ s
    else if decpt.toNat ≥ n then
      sign ++ s ++ String.ofList (List.replicate (decpt.toNat - n) '0') ++ ".0"
    else
      sign ++ String.ofList (s.toList.take decpt.toNat) ++ "." ++ String.ofList (s.toList.drop decpt.toNat)

/-- The number a string of decimal digits denotes. -/
def digitValue (ds : List Char) : Nat := ds.foldl (fun acc c => acc * 10 + (c.toNat - '0'.toNat)) 0

/-- Reads the text of a GraphQL number as the nearest double; a magnitude beyond the doubles is
infinite, one below them is zero. -/
def readDouble (text : String) : Float :=
  let cs := text.toList
  let (negative, cs) := match cs with | '-' :: r => (true, r) | r => (false, r)
  let intPart := cs.takeWhile Char.isDigit
  let cs := cs.drop intPart.length
  let (fracPart, cs) := match cs with
    | '.' :: r => (r.takeWhile Char.isDigit, r.dropWhile Char.isDigit)
    | r => ([], r)
  let exponent : Int := match cs with
    | c :: r =>
      if c == 'e' || c == 'E' then
        match r with
        | '-' :: ds => -(digitValue ds : Int)
        | '+' :: ds => digitValue ds
        | ds => digitValue ds
      else 0
    | [] => 0
  let digits := (intPart ++ fracPart).dropWhile (· == '0')
  let mantissa := digitValue digits
  let e := exponent - fracPart.length
  let magnitude : Float :=
    if mantissa = 0 then 0
    else if e + digits.length > 310 then Float.ofScientific 1 false 400
    else if e + digits.length < -330 then 0
    else if e ≥ 0 then Float.ofScientific mantissa false e.toNat
    else Float.ofScientific mantissa true (-e).toNat
  if negative then -magnitude else magnitude

end Federation.Text
