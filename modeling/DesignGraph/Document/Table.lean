import DesignGraph.Text.Pieces
import DesignGraph.Text.Trim
import DesignGraph.Text.Word

/-!
# Table rows

The cells of a row are the pieces between its bars; what follows the last bar is not a
cell. A cell names something when it holds one identifier, in code quotes or without.
Under an entity, the first cell of a row names a field; in a relation table the second
cell names the target of a relation.
-/

namespace DesignGraph.Document

open Text

def codeQuote : Char := '\x60'

/-- The cells of a row that are closed by a bar. -/
def tableCells (row : List Char) : List (List Char) :=
  match trimStart row with
  | '|' :: body => (pieces '|' body).dropLast
  | _ => []

/-- The text without one code quote at its start. -/
def dropOpeningQuote (text : List Char) : List Char :=
  match text with
  | c :: rest => if c = codeQuote then rest else text
  | [] => []

/-- The text without one code quote at its end. -/
def dropClosingQuote (text : List Char) : List Char :=
  if text.getLast? = some codeQuote then text.dropLast else text

/-- The identifier that is all of the cell; either code quote may be missing. -/
def bareIdentifier? (cell : List Char) : Option (List Char) :=
  let name := dropClosingQuote (dropOpeningQuote (trim cell))
  if !name.isEmpty && name.all isWord then some name else none

/-- First cells of table headers and rules, which name no field. English headers are
capitalized, so that a lower-case name or value can be a field. -/
def headerTokens : List String :=
  ["필드", "Field", "---", "이름", "Name", "관계", "인덱스", "Index", "값", "Value"]

/-- The field named by the first cell of a row. -/
def fieldName? (row : List Char) : Option String :=
  match tableCells row with
  | cell :: _ =>
    ((bareIdentifier? cell).map String.ofList).filter fun name => !headerTokens.contains name
  | [] => none

/-- Titles of the first column of a relation table. -/
def relationColumnTitles : List String := ["관계", "relation", "relations"]

/-- Titles of the second column of a relation table. -/
def targetColumnTitles : List String := ["대상", "target", "targets"]

/-- The cell is one of these titles, blanks around it and letter case aside. -/
def isColumnTitle (titles : List String) (cell : List Char) : Bool :=
  titles.any fun title => sameIgnoringCase title.toList (trim cell)

def isRelationHeader (row : List Char) : Bool :=
  match tableCells row with
  | relation :: target :: _ =>
    isColumnTitle relationColumnTitles relation && isColumnTitle targetColumnTitles target
  | _ => false

/-- The row rules off a header: its first cell is made of dashes and colons. -/
def isSeparatorRow (row : List Char) : Bool :=
  match tableCells row with
  | cell :: _ => !(trim cell).isEmpty && (trim cell).all fun c => c == '-' || c == ':'
  | [] => false

/-- The title that is no target even when it stands in a row of its own. -/
def targetTitleCell : String := "대상"

/-- The target named by the second cell of a relation row. -/
def tableTarget? (row : List Char) : Option String :=
  if isSeparatorRow row then none
  else
    match tableCells row with
    | relation :: target :: _ =>
      if relation.isEmpty then none
      else ((bareIdentifier? target).map String.ofList).filter fun name => name != targetTitleCell
    | _ => none

end DesignGraph.Document
