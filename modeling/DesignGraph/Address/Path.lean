import DesignGraph.Address.Percent
import DesignGraph.Address.Scheme
import DesignGraph.Text.Pieces

/-!
# Paths of addresses

A path is a row of parts with a slash before each. A part of one dot is left out, a part
of two dots takes the part before it away. The letter of a drive stays: a part that
begins with one is never taken away. The main statement says that parts without dots are
added one by one.
-/

namespace DesignGraph.Address

open Text

/-- The spellings of a single dot as a part of a path. -/
def isDot (part : List Char) : Bool :=
  part == ['.'] || part.map Char.toLower == "%2e".toList

/-- The spellings of two dots as a part of a path. -/
def isTwoDots (part : List Char) : Bool :=
  ["..", ".%2e", "%2e.", "%2e%2e"].any fun dots => dots.toList == part.map Char.toLower

/-- A letter and a colon or bar, which name a drive. -/
def isDrive : List Char → Bool
  | [letter, mark] => letter.isAlpha && (mark == ':' || mark == '|')
  | _ => false

/-- The part begins with the name of a drive and has nothing or a backslash after it. -/
def beginsWithDrive (part : List Char) : Bool :=
  isDrive (part.take 2) && ((part.drop 2).head?).all (· == '\\')

/-- The parts without the last one, which stays if it is the name of a drive. -/
def takeLastAway (parts : List (List Char)) : List (List Char) :=
  if (parts.getLast?).any beginsWithDrive then parts else parts.dropLast

/-- The name of a drive is written with a colon. -/
def normalDrive : List Char → List Char
  | [letter, _] => [letter, ':']
  | part => part

/-- The parts with one more. A file may be on a drive, which is named by the first part. -/
def addPart (kind : SchemeKind) (found : List (List Char)) (part : List Char) :
    List (List Char) :=
  if kind = .files && found.isEmpty && isDrive part then [normalDrive part] else found ++ [part]

/-- The parts of a path with dots worked out, after those found before. -/
def workOutDots (kind : SchemeKind) (found : List (List Char)) :
    List (List Char) → List (List Char)
  | [] => found
  | part :: rest =>
    if isTwoDots part then
      let left := takeLastAway found
      workOutDots kind (if rest.isEmpty then left ++ [[]] else left) rest
    else if isDot part then workOutDots kind (if rest.isEmpty then found ++ [[]] else found) rest
    else workOutDots kind (addPart kind found part) rest

/-- The parts of a path with dots worked out. A slash at the beginning of the text belongs
to its first part. -/
def pathParts (kind : SchemeKind) (text : List Char) : List (List Char) :=
  let text := text.map fun c => if kind.isSlash c then '/' else c
  let text := if text.head? = some '/' then text.drop 1 else text
  workOutDots kind [] ((pieces '/' text).map (percentEncode refusedInPath))

def pathOfParts (parts : List (List Char)) : List Char := parts.flatMap ('/' :: ·)

/-- The path in normal form, from the text between the host and the query. -/
def normalPath (kind : SchemeKind) (text : List Char) : List Char :=
  if text.isEmpty && !kind.isSpecial then [] else pathOfParts (pathParts kind text)

/-- The path of a file in normal form, without empty parts at its beginning, and whether
its first part names a drive. Empty parts are left out last: behind one of them, no part
is the first. -/
def filePath (text : List Char) : List Char × Bool :=
  let parts := pathParts .files text
  ('/' :: (pathOfParts parts).dropWhile (· == '/'), (parts.head?).any isDrive)

theorem workOutDots_append_of_plain {kind : SchemeKind} {parts : List (List Char)}
    (plain : ∀ part ∈ parts, isDot part = false ∧ isTwoDots part = false)
    (found rest : List (List Char)) :
    workOutDots kind found (parts ++ rest) =
      workOutDots kind (parts.foldl (addPart kind) found) rest := by
  induction parts generalizing found with
  | nil => rfl
  | cons part more ih =>
    obtain ⟨dot, twoDots⟩ := plain part List.mem_cons_self
    rw [List.cons_append, workOutDots, dot, twoDots]
    exact ih (fun other h => plain other (List.mem_cons_of_mem part h)) _

end DesignGraph.Address
