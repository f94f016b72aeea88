/-!
# Range tables

A range table is an array of closed ranges in ascending order; membership is found by halving.
-/

namespace ScriptHost.Unicode

/-- Halves the part of the table from `low` up to `high`, at most `fuel` times. -/
def searchRanges (table : Array (Nat × Nat)) (n : Nat) : Nat → Nat → Nat → Bool
  | 0, _, _ => false
  | fuel + 1, low, high =>
    if high ≤ low then false
    else
      let middle := (low + high) / 2
      match table[middle]? with
      | none => false
      | some (first, last) =>
        if n < first then searchRanges table n fuel low middle
        else if last < n then searchRanges table n fuel (middle + 1) high
        else true

/-- Whether a number lies in one of the ranges. -/
def inRanges (table : Array (Nat × Nat)) (n : Nat) : Bool :=
  searchRanges table n (table.size.log2 + 2) 0 table.size

end ScriptHost.Unicode
