/-!
# Tables of code points

A character class of a standard is a sorted array of disjoint closed ranges of code points.
`Array.coversCode` looks a code point up by bisection.
-/

namespace ModuleAudit.Text

/-- Whether `x` lies in one of the ranges with index from `lo` up to, not including, `hi`. -/
def coversBetween (table : Array (Nat × Nat)) (x lo hi : Nat) : Bool :=
  if lo < hi then
    let mid := (lo + hi) / 2
    match table[mid]? with
    | none => false
    | some (first, last) =>
      if x < first then coversBetween table x lo mid
      else if last < x then coversBetween table x (mid + 1) hi
      else true
  else false
termination_by hi - lo

end ModuleAudit.Text

/-- Whether a code point lies in one of the ranges of a sorted table. -/
def Array.coversCode (table : Array (Nat × Nat)) (x : Nat) : Bool :=
  ModuleAudit.Text.coversBetween table x 0 table.size
