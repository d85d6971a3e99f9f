import DesignGraph.Text.CodeRuns
import DesignGraph.Text.Digits
import DesignGraph.Text.Pieces

/-!
# Tables of code points

A table gives a value to each of its runs of code points. It is written in rows with
spaces between them: the first code point of a run, a hyphen and the last one if there
are more than one, a hyphen and the step if there are gaps, an equals sign, and the value.
Code points and steps are hexadecimal.
-/

namespace DesignGraph.Text

/-- Runs of code points in increasing order, and the value of each run. -/
structure CodeTable (α : Type) where
  runs : CodeRuns
  values : Array α

namespace CodeTable

variable {α : Type}

/-- The run that holds the code point, and its value. -/
def find? (table : CodeTable α) (n : Nat) : Option (CodeRun × α) := do
  let position ← table.runs.position? n
  let run ← table.runs[position]?
  let value ← table.values[position]?
  if run.holds n then return (run, value) else none

def get? (table : CodeTable α) (n : Nat) : Option α := (table.find? n).map (·.2)

def readRun? (text : List Char) : Option CodeRun := do
  match ← (pieces '-' text).mapM (number? 16) with
  | [first] => some { first, last := first }
  | [first, last] => some { first, last }
  | [first, last, step] => some { first, last, step }
  | _ => none

def readRow? (readValue : List Char → Option α) (text : List Char) : Option (CodeRun × α) :=
  match pieces '=' text with
  | [run, value] => do return (← readRun? run, ← readValue value)
  | _ => none

def ofLines (readValue : List Char → Option α) (lines : List String) : CodeTable α :=
  let rows := lines.flatMap fun line =>
    (pieces ' ' line.toList).filterMap (readRow? readValue)
  { runs := (rows.map (·.1)).toArray, values := (rows.map (·.2)).toArray }

/-- The characters whose code points are written with plus signs between them. -/
def readChars? (text : List Char) : Option (List Char) :=
  ((pieces '+' text).mapM (number? 16)).map (·.map Char.ofNat)

end CodeTable

end DesignGraph.Text
