/-!
# Similar words

How alike two words are, to suggest an option for a mistyped one. Their likeness is twice the
number of characters in matching blocks over the two lengths together. The matching blocks are
found by taking the longest common block (the first one, by its end in the first word), then
the matching blocks left of it and right of it.

A word's close matches are the candidates at least 0.6 alike, most alike first (ties broken by
the later candidate in text order), at most three.
-/

namespace Federation.Cli

/-- The longest block common to `a[alo, ahi)` and `b[blo, bhi)`: its start in each and its size;
among the longest, the one that ends first in `a`, then in `b`. -/
def longestMatch (a b : Array Char) (alo ahi blo bhi : Nat) : Nat × Nat × Nat :=
  let width := b.size + 1
  let (best, _) := (List.range' alo (ahi - alo)).foldl (fun (best, prev) i =>
    (List.range' blo (bhi - blo)).foldl (fun ((bi, bj, bk), row) j =>
      if a.getD i ' ' == b.getD j ' ' then
        let k := (if j == 0 then 0 else prev.getD j 0) + 1
        let row := row.set! (j + 1) k
        if k > bk then ((i + 1 - k, j + 1 - k, k), row) else ((bi, bj, bk), row)
      else ((bi, bj, bk), row))
      (best, Array.replicate width 0))
    ((alo, blo, 0), Array.replicate width 0)
  best

/-- The number of characters in the matching blocks of `a[alo, ahi)` and `b[blo, bhi)`. -/
def matchedCount (a b : Array Char) : Nat → Nat → Nat → Nat → Nat → Nat
  | 0, _, _, _, _ => 0
  | fuel + 1, alo, ahi, blo, bhi =>
    let (i, j, k) := longestMatch a b alo ahi blo bhi
    if k == 0 then 0
    else
      let left := if alo < i && blo < j then matchedCount a b fuel alo i blo j else 0
      let right := if i + k < ahi && j + k < bhi then matchedCount a b fuel (i + k) ahi (j + k) bhi else 0
      k + left + right

/-- The likeness of a candidate to a word, as matched characters and total length. -/
def likeness (candidate word : String) : Nat × Nat :=
  let a := candidate.toList.toArray
  let b := word.toList.toArray
  (matchedCount a b (a.size + b.size + 1) 0 a.size 0 b.size, a.size + b.size)

/-- Whether a likeness reaches 0.6. -/
def closeEnough : Nat × Nat → Bool
  | (matched, total) => total == 0 || 10 * (2 * matched) ≥ 6 * total

/-- A likeness as a fraction: twice the matched characters over the total length, one for two
empty words. -/
def likenessFraction : Nat × Nat → Nat × Nat
  | (matched, total) => if total == 0 then (1, 1) else (2 * matched, total)

/-- Whether a likeness with its candidate ranks before another: more alike, or as alike and a
later candidate. -/
def ranksBefore (x y : (Nat × Nat) × String) : Bool :=
  let (n1, d1) := likenessFraction x.1
  let (n2, d2) := likenessFraction y.1
  n1 * d2 > n2 * d1 || (n1 * d2 == n2 * d1 && decide (y.2 < x.2))

/-- The candidates close to a word: at most three, most alike first. -/
def closeMatches (word : String) (candidates : List String) : List String :=
  let scored := candidates.filterMap fun c =>
    let l := likeness c word
    if closeEnough l then some (l, c) else none
  ((scored.mergeSort ranksBefore).take 3).map (·.2)

end Federation.Cli
