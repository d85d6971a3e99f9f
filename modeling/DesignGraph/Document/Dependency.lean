import DesignGraph.Document.Heading
import DesignGraph.Text.LetterCase

/-!
# Dependency items

A list item with a bold label, such as `- **dependency**: Orders, Billing (async)`,
names what a component depends on. The names stand between the commas outside of
parentheses; what stands in parentheses describes a name and is dropped.
-/

namespace DesignGraph.Document

open Text

def dependencyLabels : List String := ["의존성", "dependency", "dependencies"]

/-- Values that stand for no dependency at all. -/
def noneWords : List String := ["없음", "none", "—", "-", ""]

/-- The value says that there is nothing to name. -/
def saysNone (value : List Char) : Bool :=
  noneWords.contains (String.ofList ((trim value).flatMap lowercase))

/-- What stands before and after the first pair of asterisks. -/
def splitAtStars? : List Char → Option (List Char × List Char)
  | '*' :: '*' :: rest => some ([], rest)
  | c :: rest => (splitAtStars? rest).map fun (before, after) => (c :: before, after)
  | [] => none

/-- The rest of a text after a fixed beginning. -/
def after? (beginning : String) (text : List Char) : Option (List Char) :=
  beginning.toList.isPrefixOf? text

/-- The value of a dependency item; nothing for any other line. -/
def dependencyValue? (line : List Char) : Option (List Char) := do
  let item ← after? "-" (trimStart line)
  guard (item.head?.any isBlank)
  let (label, rest) ← splitAtStars? (← after? "**" (trimStart item))
  guard (dependencyLabels.any fun known => sameIgnoringCase known.toList label)
  return trim (← after? ":" (trimStart rest))

/-- The depth of parentheses after a character; one that closes nothing leaves it at zero. -/
def depthAfter (depth : Nat) (c : Char) : Nat :=
  if c = '(' then depth + 1 else if c = ')' then depth - 1 else depth

/-- The pieces between the commas outside of parentheses. -/
def splitTopLevel (depth : Nat) : List Char → List (List Char)
  | [] => [[]]
  | c :: rest =>
    if c = ',' ∧ depth = 0 then [] :: splitTopLevel depth rest
    else
      match splitTopLevel (depthAfter depth c) rest with
      | [] => [[c]]
      | piece :: more => (c :: piece) :: more

/-- The text without its parentheticals; a parenthesis that closes nothing stays. -/
def dropParentheticals (depth : Nat) : List Char → List Char
  | [] => []
  | c :: rest =>
    if c = '(' then dropParentheticals (depth + 1) rest
    else
      match depth with
      | 0 => c :: dropParentheticals 0 rest
      | outer + 1 =>
        if c = ')' then dropParentheticals outer rest else dropParentheticals (outer + 1) rest

/-- The names on a dependency item, in order; none on any other line. -/
def dependencyTargets (line : List Char) : List String :=
  match dependencyValue? line with
  | none => []
  | some value =>
    if saysNone value then []
    else
      (((splitTopLevel 0 value).map fun piece =>
        trimDecoration (trim (dropParentheticals 0 piece))).filter
          fun name => !saysNone name).map String.ofList

end DesignGraph.Document
