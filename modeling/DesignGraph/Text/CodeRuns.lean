/-!
# Runs of code points

A character property is a table of runs: code points from a first to a last one,
taken with a fixed step. A table lists its runs in increasing order and no two of
them overlap, so the only run that can hold a code point is the last one that starts
at or before it. `find?` bisects for that run.
-/

namespace DesignGraph.Text

/-- Every `step`-th code point from `first` to `last`. -/
structure CodeRun where
  first : Nat
  last : Nat
  step : Nat := 1
  deriving Repr, DecidableEq

namespace CodeRun

def holds (run : CodeRun) (n : Nat) : Bool :=
  run.first ≤ n && n ≤ run.last && (n - run.first) % run.step == 0

end CodeRun

abbrev CodeRuns := Array CodeRun

namespace CodeRuns

/-- The table of the unbroken runs with these first and last code points. -/
def ofPairs (bounds : List (Nat × Nat)) : CodeRuns :=
  (bounds.map fun (first, last) => { first, last }).toArray

/-- The table of the runs with these first and last code points and steps. -/
def ofTriples (runs : List (Nat × Nat × Nat)) : CodeRuns :=
  (runs.map fun (first, last, step) => { first, last, step }).toArray

/-- How many of the runs start at or before `n`, given that the count is between `low`
and `high`. Each round halves the distance, so `rounds` only has to bound its logarithm. -/
def countFrom (runs : CodeRuns) (n : Nat) : Nat → Nat → Nat → Nat
  | 0, low, _ => low
  | rounds + 1, low, high =>
    if low < high then
      let middle := (low + high) / 2
      match runs[middle]? with
      | some run =>
        if run.first ≤ n then countFrom runs n rounds (middle + 1) high
        else countFrom runs n rounds low middle
      | none => low
    else low

/-- The position of the last run that starts at or before the code point. -/
def position? (runs : CodeRuns) (n : Nat) : Option Nat :=
  match runs.countFrom n runs.size 0 runs.size with
  | 0 => none
  | count + 1 => some count

def find? (runs : CodeRuns) (n : Nat) : Option CodeRun := do
  let position ← runs.position? n
  (runs[position]?).filter (·.holds n)

def contains (runs : CodeRuns) (n : Nat) : Bool :=
  (runs.find? n).isSome

end CodeRuns

end DesignGraph.Text
