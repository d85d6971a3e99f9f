import DesignGraph.Text.Trim

/-!
# Line shapes

What a line of a document is, told from the line alone. A heading is two or three
number signs at the very start and then a blank; one sign or four make plain text.
-/

namespace DesignGraph.Document

open Text

/-- The shape of a line. -/
inductive Line where
  /-- Two number signs: a section begins. -/
  | sectionHeading (title : List Char)
  /-- Three number signs: a component or an entity, as the section has it. -/
  | subHeading (text : List Char)
  /-- A row of a table, from its first bar on. -/
  | tableRow (row : List Char)
  /-- Anything else, blank lines included. -/
  | plain (text : List Char)
  deriving DecidableEq, Repr

def headingText? (level : Nat) (raw : List Char) : Option (List Char) :=
  match (List.replicate level '#').isPrefixOf? raw with
  | some (c :: rest) => if isBlank c then some (trim (c :: rest)) else none
  | _ => none

/-- The shape of a line; a table row may be indented. -/
def Line.classify (raw : List Char) : Line :=
  match headingText? 2 raw with
  | some title => .sectionHeading title
  | none =>
    match headingText? 3 raw with
    | some text => .subHeading text
    | none =>
      if (trimStart raw).head? = some '|' then .tableRow (trimStart raw) else .plain raw

end DesignGraph.Document
