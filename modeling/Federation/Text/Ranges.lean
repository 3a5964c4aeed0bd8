/-!
# Tables of character ranges

A character property is given as a table of closed ranges of code points, sorted and disjoint.
Whether a character has the property is found by halving the part of the table that can still
hold its code point.
-/

namespace Federation.Text

/-- Sorted, disjoint closed ranges of code points. -/
abbrev RangeTable := Array (Nat × Nat)

/-- Whether a code point lies in one of the ranges of a table. Each step halves the part of the
table still searched, so as many steps as the table has ranges are more than enough. -/
def RangeTable.contains (table : RangeTable) (n : Nat) : Bool :=
  go (table.size + 1) 0 table.size
where
  /-- Whether the code point lies in one of the ranges from index `lo` up to `hi`, in at most
  `fuel` steps. -/
  go : Nat → Nat → Nat → Bool
    | 0, _, _ => false
    | fuel + 1, lo, hi =>
      if lo < hi then
        let mid := (lo + hi) / 2
        let (a, b) := table.getD mid (0, 0)
        if n < a then go fuel lo mid
        else if b < n then go fuel (mid + 1) hi
        else true
      else false

/-- Whether a character lies in one of the ranges of a table. -/
def RangeTable.has (table : RangeTable) (c : Char) : Bool := table.contains c.toNat

example : RangeTable.contains #[(1, 3), (7, 9)] 8 = true := by decide
example : RangeTable.contains #[(1, 3), (7, 9)] 5 = false := by decide

end Federation.Text
