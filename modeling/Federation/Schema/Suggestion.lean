/-!
# Suggestions

When a name is not known, messages suggest known names that are close to it. Two names are
close when few edits turn one into the other: inserting, deleting or replacing a character, or
swapping two adjacent ones, ignoring case; a change of case alone counts as one edit. A name
is suggested when its distance is at most two fifths of the unknown name's length, plus one.

Suggestions are ordered by distance, then in natural order: runs of digits compare by their
value, other text by its characters. At most five are named.
-/

namespace Federation.Schema

/-- One row of the edit-distance table from the next, given the row before it and the one
before that; `a` is the character of this row and `aPrev` the one of the row before. -/
def distanceRow (b : List Char) (i : Nat) (a : Char) (aPrev : Option Char)
    (up upUp : Array Nat) : Array Nat :=
  let step (row : Array Nat) (jb : Char × Nat) : Array Nat :=
    let (bj, j0) := jb
    let j := j0 + 1
    let cost := if a == bj then 0 else 1
    let cell := min (min (up.getD j 0 + 1) (row.getD (j - 1) 0 + 1)) (up.getD (j - 1) 0 + cost)
    let cell := match aPrev, b[j0 - 1]? with
      | some ap, some bPrev =>
        if j0 ≥ 1 && a == bPrev && ap == bj then min cell (upUp.getD (j - 2) 0 + 1) else cell
      | _, _ => cell
    row.push cell
  b.zipIdx.foldl step #[i]

/-- The edit distance between two strings, where swapping adjacent characters is one edit. -/
def editDistance (a b : List Char) : Nat :=
  let first : Array Nat := (List.range (b.length + 1)).toArray
  let (_, last, _) := a.zipIdx.foldl
    (fun (acc : Array Nat × Array Nat × Option Char) (ai : Char × Nat) =>
      let (upUp, up, prev) := acc
      (up, distanceRow b (ai.2 + 1) ai.1 prev up upUp, some ai.1))
    (#[], first, none)
  last.getD b.length 0

/-- The distance of an option from an input, if it is close enough to be suggested. -/
def suggestionDistance (input option : String) : Option Nat :=
  let threshold := input.length * 2 / 5 + 1
  if input == option then some 0
  else
    let a := option.toList.map Char.toLower
    let b := input.toList.map Char.toLower
    if a == b then some 1
    else
      let d := editDistance a b
      if d ≤ threshold then some d else none

/-- A piece of a name in natural order: a run of digits or a run of other characters. -/
inductive NaturalPart where
  | text (s : List Char)
  | number (value : Nat) (digits : List Char)
  deriving BEq

/-- Splits a name into alternating runs, starting with a (possibly empty) run of text. -/
def naturalParts (cs : List Char) : List NaturalPart :=
  go cs.length cs
where
  go : Nat → List Char → List NaturalPart
    | 0, _ => []
    | fuel + 1, cs =>
      let t := cs.takeWhile (!·.isDigit)
      let rest := cs.drop t.length
      let ds := rest.takeWhile Char.isDigit
      if ds.isEmpty then [.text t]
      else .text t :: .number (ds.foldl (fun n c => n * 10 + (c.toNat - 48)) 0) ds ::
        (let more := rest.drop ds.length; if more.isEmpty then [.text []] else go fuel more)

/-- Lexicographic order of character lists. -/
def charsLt : List Char → List Char → Bool
  | [], [] => false
  | [], _ :: _ => true
  | _ :: _, [] => false
  | a :: as, b :: bs => if a == b then charsLt as bs else a < b

/-- The order of two pieces: numbers by value, then by their digits; text by characters. -/
def NaturalPart.lt : NaturalPart → NaturalPart → Bool
  | .text a, .text b => charsLt a b
  | .number m a, .number n b => m < n || (m == n && charsLt a b)
  | .text _, .number .. => false
  | .number .., .text _ => true

/-- The natural order of two names. -/
def naturalLt : List NaturalPart → List NaturalPart → Bool
  | [], [] => false
  | [], _ :: _ => true
  | _ :: _, [] => false
  | a :: as, b :: bs => if a == b then naturalLt as bs else a.lt b

/-- The known names close to an input, nearest first. -/
def suggestionList (input : String) (options : List String) : List String :=
  let scored := options.eraseDups.filterMap fun o => (suggestionDistance input o).map (o, ·)
  let ordered := scored.mergeSort fun (a, da) (b, db) =>
    da < db || (da == db && !naturalLt (naturalParts b.toList) (naturalParts a.toList))
  ordered.map (·.1)

/-- The sentence that suggests names, empty when there are none: at most five, quoted. -/
def didYouMean (suggestions : List String) : String :=
  let quoted := (suggestions.take 5).map fun s => "'" ++ s ++ "'"
  match quoted with
  | [] => ""
  | [a] => " Did you mean " ++ a ++ "?"
  | [a, b] => " Did you mean " ++ a ++ " or " ++ b ++ "?"
  | _ => " Did you mean " ++ ", ".intercalate (quoted.dropLast) ++ ", or " ++ quoted.getLastD "" ++ "?"

end Federation.Schema
