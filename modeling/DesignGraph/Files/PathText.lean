import DesignGraph.Text.Pieces
import DesignGraph.Text.Trim

/-!
# Paths as text

What can be told of a path without looking at any file. The last part of a path is its
file name; empty parts and single dots do not count, and two dots name no file. Paths of
bytes that are no text are left out.
-/

namespace DesignGraph.Files

open Text

def pathParts (path : List Char) : List (List Char) :=
  (pieces '/' path).filter fun part => part ≠ [] ∧ part ≠ ['.']

def fileName? (path : String) : Option String :=
  match (pathParts path.toList).getLast? with
  | some part => if part = ['.', '.'] then none else some (String.ofList part)
  | none => none

/-- What follows the last dot of a file name, unless that dot is its first character. -/
def extension? (path : String) : Option String :=
  match fileName? path with
  | some name =>
    let reversed := name.toList.reverse
    let after := reversed.takeWhile (· ≠ '.')
    match reversed.drop after.length with
    | _ :: _ :: _ => some (String.ofList after.reverse)
    | _ => none
  | none => none

def joinPath (directory path : String) : String :=
  if path.startsWith '/' then path
  else if directory = "" ∨ directory.endsWith '/' then directory ++ path
  else directory ++ "/" ++ path

/-- The path of a picture: as asked when it has the extension, with it put after the text
of the path otherwise. -/
def pngPath (path : String) : String :=
  match extension? path with
  | some e => if sameIgnoringCase e.toList "png".toList then path else path ++ ".png"
  | none => path ++ ".png"

/-- The path at which a file is made before it is moved to its own. -/
def partialPath (path : String) : String := path ++ ".partial"

end DesignGraph.Files
