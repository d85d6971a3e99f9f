import DesignGraph.Address.Direction
import DesignGraph.Address.Joining
import DesignGraph.Address.NameTable
import DesignGraph.Address.Punycode
import DesignGraph.Text.Composition
import DesignGraph.Text.Mark

/-!
# Names of servers

A name is a row of labels with dots between them. It has one normal form in ASCII: what
looks the same is made the same, and labels with other characters are spelled in ASCII
with a mark before them. A label that has the mark must spell what would be spelled so.
-/

namespace DesignGraph.Address

open Text

/-- A label as it is read and as it is written in ASCII. -/
structure Label where
  shown : List Char
  ascii : List Char
  deriving DecidableEq, Repr

namespace Label

/-- What a label begins with that spells other characters in ASCII. -/
def mark : List Char := ['x', 'n', '-', '-']

/-- The longest label that is spelled in ASCII. -/
def longestShown : Nat := 1000

def longestSpelling : Nat := 2000

/-- Characters of ASCII that no name may hold. -/
def isForbidden (c : Char) : Bool :=
  c.toNat ≤ 0x20 || c.toNat == 0x7F || "%#/:<>?@[\\]^|".toList.contains c

/-- The characters may stand together as a label. -/
def isWellFormed (shown : List Char) : Bool :=
  !shown.any isForbidden && !(shown.head?).any isMark && joinersFit [] shown

/-- Making the same what looks the same leaves the characters as they are. -/
def isNormal (shown : List Char) : Bool := shown.all isKept && composed shown == shown

def spelling? (label : List Char) : Option (List Char) :=
  if label.take mark.length = mark then some (label.drop mark.length) else none

/-- The label that a spelling in ASCII stands for. A spelling that adds nothing to the
ASCII characters is none. -/
def ofSpelling? (spelling : List Char) : Option Label := do
  if longestSpelling < spelling.length || spelling.isEmpty || spelling.getLast? = some '-' then
    none
  else
    let shown ← Punycode.decode? spelling
    if isNormal shown && isWellFormed shown then some ⟨shown, mark ++ spelling⟩ else none

def ofShown? (shown : List Char) : Option Label :=
  if !isWellFormed shown then none
  else if shown.all fun c => c.toNat < 0x80 then some ⟨shown, shown⟩
  else if longestShown < shown.length then none
  else some ⟨shown, mark ++ Punycode.encode shown⟩

def read? (text : List Char) : Option Label :=
  match spelling? text with
  | some spelling => ofSpelling? spelling
  | none => ofShown? text

end Label

/-- The name with what looks the same made the same; none when a character is refused. -/
def normalName? (name : List Char) : Option (List Char) :=
  (name.mapM nameChar?).map fun parts => composed parts.flatten

def asciiName? (name : List Char) : Option (List Char) := do
  let labels ← (pieces '.' (← normalName? name)).mapM Label.read?
  if Direction.isClear (labels.map (·.shown)) then
    return ['.'].intercalate (labels.map (·.ascii))
  else none

end DesignGraph.Address
