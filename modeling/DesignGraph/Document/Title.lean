import DesignGraph.Text.Blank
import DesignGraph.Text.LetterCase

/-!
# Section titles

Which titles open a section that lists components, and which one that lists entities.
Titles are compared by their beginning, whatever their spacing, hyphens and case.
-/

namespace DesignGraph.Document

open Text

/-- The title in lower case, without blanks, hyphens and low lines. -/
def normalizedTitle (title : List Char) : List Char :=
  (title.filter fun c => !isBlank c && c != '-' && c != '_').flatMap lowercase

/-- Beginnings of titles of sections that list components. -/
def componentTitles : List String :=
  ["모듈책임", "도메인내부모듈상세", "컴포넌트", "moduleresponsibilit",
    "domaininternalmoduledetail", "component"]

/-- Beginnings of titles of sections that list entities. -/
def entityTitles : List String := ["엔티티", "entit"]

def titleBegins (beginnings : List String) (title : List Char) : Bool :=
  beginnings.any fun beginning => beginning.toList.isPrefixOf (normalizedTitle title)

/-- The title opens a section that lists components. -/
def isComponentTitle (title : List Char) : Bool := titleBegins componentTitles title

/-- The title opens a section that lists entities. -/
def isEntityTitle (title : List Char) : Bool := titleBegins entityTitles title

end DesignGraph.Document
