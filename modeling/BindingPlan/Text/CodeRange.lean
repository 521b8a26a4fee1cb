/-! # Ranges of code points

A property of characters is kept as a table of ranges. A plain range has a first and a last code
point; a run has a stride besides, for scripts in which every other letter has the property. -/

namespace BindingPlan.Text

/-- Whether a code point lies in one of the ranges, ends included. -/
def inRanges (ranges : List (Nat × Nat)) (n : Nat) : Bool :=
  ranges.any fun (first, last) => decide (first ≤ n) && decide (n ≤ last)

/-- The code points `first`, `first + stride`, … up to `last`. -/
structure CodeRun where
  first : Nat
  last : Nat
  stride : Nat

/-- Whether a code point is a member of the run. -/
def CodeRun.contains (run : CodeRun) (n : Nat) : Bool :=
  decide (run.first ≤ n) && decide (n ≤ run.last) && (n - run.first) % run.stride == 0

end BindingPlan.Text
