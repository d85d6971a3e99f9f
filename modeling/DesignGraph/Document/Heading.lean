import DesignGraph.Document.Table
import DesignGraph.Text.LetterCase

/-!
# Sub-headings

A sub-heading in a section of components names a component: what is left of it without
a closing parenthetical and without decoration. Where entities are listed it names an
entity by its first word, if that starts with an uppercase character.
-/

namespace DesignGraph.Document

open Text

/-- Code quotes, emphasis and spaces, which may surround a name. -/
def isDecoration (c : Char) : Bool := c == codeQuote || c == '*' || c == '_' || c == ' '

/-- The text without decoration at either end. -/
def trimDecoration (text : List Char) : List Char := trimWhile isDecoration text

/-- A text that ends in a parenthesis, up to its first opening one. -/
def dropClosingParenthetical (text : List Char) : List Char :=
  if text.getLast? = some ')' then trimEnd (text.takeWhile (· ≠ '(')) else text

/-- The component named by a sub-heading; empty when nothing is left of it. -/
def componentName (text : List Char) : List Char :=
  trimDecoration (dropClosingParenthetical (trim text))

/-- From this length on a name is taken for running text. -/
def longestName : Nat := 50

/-- The name is neither empty nor running text. -/
def isPlausibleName (name : List Char) : Bool := !name.isEmpty && name.length < longestName

def entityName? (text : List Char) : Option (List Char) :=
  let name := (dropOpeningQuote (trimStart text)).takeWhile isWord
  if name.head?.any isUppercase then some name else none

end DesignGraph.Document
