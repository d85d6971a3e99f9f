import DesignGraph.Text.Composite

/-!
# Composed text

Two spellings of a text that look the same have one composed form. It takes all
composites apart, sorts the marks on each base by their class, and puts together what can
be put together.
-/

namespace DesignGraph.Text

/-- No composite comes apart more often than this. -/
def splitDepth : Nat := 3

/-- The characters that are left when composites are taken apart this often. -/
def takeApart : Nat → Char → List Char
  | 0, c => [c]
  | depth + 1, c =>
    match parts? c with
    | some (first, second) => takeApart depth first ++ [second]
    | none => [c]

/-- The character goes before the marks of a lower class that it stands after. -/
def insertMark (c : Char) : List Char → List Char
  | [] => [c]
  | d :: rest =>
    if 0 < combiningClass d ∧ combiningClass d < combiningClass c then d :: insertMark c rest
    else c :: d :: rest

/-- The text with the marks on each base in the order of their classes. Marks of one class
keep their order. -/
def sortMarks : List Char → List Char
  | [] => []
  | c :: rest => insertMark c (sortMarks rest)

/-- A mark of this class cannot reach the base over these marks. -/
def isBlocked (marks : List Char) (c : Char) : Bool :=
  (marks.getLast?).any fun mark => combiningClass c ≤ combiningClass mark

/-- The composed text of a base, the marks on it that stay by themselves, and what
follows. -/
def joinFrom (base : Char) (marks : List Char) : List Char → List Char
  | [] => base :: marks
  | c :: rest =>
    match if isBlocked marks c then none else composite? base c with
    | some joined => joinFrom joined marks rest
    | none =>
      if combiningClass c = 0 then base :: marks ++ joinFrom c [] rest
      else joinFrom base (marks ++ [c]) rest

def composed (text : List Char) : List Char :=
  match sortMarks (text.flatMap (takeApart splitDepth)) with
  | [] => []
  | c :: rest => joinFrom c [] rest

end DesignGraph.Text
