import DesignGraph.Files.Fault
import DesignGraph.Text.Pieces
import DesignGraph.Text.Utf8

/-!
# A tree of files

The files a run can see, as a value: what stands at each place, and the directory from
which relative paths start. A path is walked part by part, as the system does it: each
part on the way has to be a directory, an empty part or a single dot stays, two dots go
up, and the root is above itself.

What may be taken away is part of the tree too: the system can refuse to remove or to
rename what stands at a place, as it does without permission for its directory. Writing
to the place is another matter.
-/

namespace DesignGraph.Files

open Text

/-- A place in the tree, by the names that lead to it from the root. -/
abbrev Place := List String

/-- What stands at a place. -/
inductive Entry where
  | directory
  | file (content : Bytes) (executable : Bool)
  deriving DecidableEq, Repr

/-- What stands where, the directory from which relative paths start, and the places from
which nothing may be taken away, each with the fault that says so. -/
structure FileTree where
  start : Place
  entries : List (Place × Entry)
  held : List (Place × Fault) := []
  deriving DecidableEq, Repr

/-- The last part of a path: a name, or something that names no new place. -/
inductive LastPart where
  | name (text : String)
  | dots
  deriving DecidableEq, Repr

/-- Where the last part of a path is looked for: the directory that holds it, the part
itself, and whether the path insists on a directory by ending in a slash. -/
structure Target where
  directory : Place
  last : LastPart
  slash : Bool
  deriving DecidableEq, Repr

def longestName : Nat := 255

def longestPath : Nat := 4096

namespace FileTree

/-- What stands at a place. The root is always there. -/
def entry? (t : FileTree) (place : Place) : Option Entry :=
  if place = [] then some .directory
  else (t.entries.find? fun e => decide (e.1 = place)).map Prod.snd

/-- Why nothing may be taken away from a place, if that is so. -/
def refusal? (t : FileTree) (place : Place) : Option Fault :=
  (t.held.find? fun e => decide (e.1 = place)).map Prod.snd

/-- The tree with something put at a place. -/
def put (t : FileTree) (place : Place) (entry : Entry) : FileTree :=
  { t with entries := (place, entry) :: t.entries.filter fun e => decide (e.1 ≠ place) }

def erase (t : FileTree) (place : Place) : FileTree :=
  { t with entries := t.entries.filter fun e => decide (e.1 ≠ place) }

/-- Where a place comes to lie when one place and all below it are moved. -/
def relocate (source target place : Place) : Place :=
  match source.isPrefixOf? place with
  | some below => target ++ below
  | none => place

/-- The tree with everything at and below one place moved to another. -/
def move (t : FileTree) (source target : Place) : FileTree :=
  { t with
    entries := (t.entries.filter fun e => decide (e.1 ≠ target)).map fun e =>
      (relocate source target e.1, e.2)
    held := t.held.map fun e => (relocate source target e.1, e.2) }

/-- Something stands directly below the place. -/
def hasChildren (t : FileTree) (place : Place) : Bool :=
  t.entries.any fun e => decide (e.1 ≠ []) && decide (e.1.dropLast = place)

/-- The path cannot be walked whatever is in the tree. -/
def pathFault? (path : String) : Option Fault :=
  if path.toList.contains '\x00' then some .zeroInPath
  else if path = "" then some .notFound
  else if longestPath ≤ path.utf8ByteSize then some .nameTooLong
  else none

def parts (path : String) : List String :=
  ((pieces '/' path.toList).filter (· ≠ [])).map String.ofList

/-- The directory from which the path is walked. -/
def origin (t : FileTree) (path : String) : Place := if path.startsWith '/' then [] else t.start

def walk (t : FileTree) (place : Place) : List String → Except Fault Place
  | [] => .ok place
  | part :: rest =>
    match t.entry? place with
    | some .directory =>
      if part = "." then walk t place rest
      else if part = ".." then walk t place.dropLast rest
      else if longestName < part.utf8ByteSize then .error .nameTooLong
      else if (t.entry? (place ++ [part])).isSome then walk t (place ++ [part]) rest
      else .error .notFound
    | some (.file ..) => .error .notDirectory
    | none => .error .notFound

/-- The place of a path. A slash at the end insists on a directory. -/
def resolve (t : FileTree) (path : String) : Except Fault Place :=
  match pathFault? path with
  | some fault => .error fault
  | none => t.walk (t.origin path) (parts path ++ if path.endsWith '/' then ["."] else [])

def lookup (t : FileTree) (path : String) : Except Fault Entry := do
  match t.entry? (← t.resolve path) with
  | some entry => .ok entry
  | none => .error .notFound

/-- A file, and not a directory, stands at the path. -/
def isFile (t : FileTree) (path : String) : Bool :=
  match t.lookup path with
  | .ok (.file ..) => true
  | _ => false

def readBytes (t : FileTree) (path : String) : Except Fault Bytes := do
  match ← t.lookup path with
  | .file content _ => .ok content
  | .directory => .error .isDirectory

def readText (t : FileTree) (path : String) : Except Fault String := do
  match ofUtf8? (← t.readBytes path) with
  | some text => .ok text
  | none => .error .notText

/-- A file that holds the bytes of a text is read as the text. -/
theorem readText_of_utf8 {t : FileTree} {path text : String}
    (h : t.readBytes path = .ok (utf8 text)) : t.readText path = .ok text := by
  simp [readText, h, bind, Except.bind, ofUtf8?_utf8]

/-- Where the last part of a path is looked for. -/
def target (t : FileTree) (path : String) : Except Fault Target :=
  match pathFault? path with
  | some fault => .error fault
  | none => do
    let names := parts path
    let directory ← t.walk (t.origin path) (names.dropLast ++ ["."])
    match names.getLast? with
    | some last =>
      if last = "." ∨ last = ".." then return ⟨directory, .dots, path.endsWith '/'⟩
      else if longestName < last.utf8ByteSize then throw .nameTooLong
      else return ⟨directory, .name last, path.endsWith '/'⟩
    | none => return ⟨directory, .dots, true⟩

/-- The tree with a file written, made if it is not there and kept executable if it is. -/
def writeFile (t : FileTree) (path : String) (content : Bytes) : Except Fault FileTree := do
  let found ← t.target path
  match found.last with
  | .dots => .error .isDirectory
  | .name last =>
    let place := found.directory ++ [last]
    match t.entry? place with
    | some .directory => .error .isDirectory
    | some (.file _ executable) =>
      if found.slash then .error .notDirectory else .ok (t.put place (.file content executable))
    | none => if found.slash then .error .isDirectory else .ok (t.put place (.file content false))

/-- The tree without a file, if the system lets it be taken away; a directory is not removed. -/
def removeFile (t : FileTree) (path : String) : Except Fault FileTree := do
  let found ← t.target path
  match found.last with
  | .dots => .error .isDirectory
  | .name last =>
    let place := found.directory ++ [last]
    match t.entry? place with
    | none => .error .notFound
    | some entry =>
      if entry ≠ .directory ∧ found.slash then .error .notDirectory
      else
        match t.refusal? place, entry with
        | some fault, _ => .error fault
        | none, .directory => .error .isDirectory
        | none, .file .. => .ok (t.erase place)

/-- What keeps an entry from taking a place where something stands. -/
def replaceFault? (t : FileTree) (source : Entry) (place : Place) : Option Fault :=
  match t.entry? place with
  | none => none
  | some entry =>
    match t.refusal? place, source, entry with
    | some fault, _, _ => some fault
    | none, .file .., .directory => some .isDirectory
    | none, .directory, .file .. => some .notDirectory
    | none, .directory, .directory => if t.hasChildren place then some .notEmpty else none
    | none, .file .., .file .. => none

/-- The tree with an entry moved from one path to another, in the place of what stood
there. -/
def rename (t : FileTree) (path newPath : String) : Except Fault FileTree := do
  let old ← t.target path
  let new ← t.target newPath
  match old.last, new.last with
  | .name oldName, .name newName =>
    let source := old.directory ++ [oldName]
    let destination := new.directory ++ [newName]
    match t.entry? source with
    | none => .error .notFound
    | some entry =>
      if entry ≠ .directory ∧ (old.slash ∨ new.slash) then .error .notDirectory
      else if source = destination then .ok t
      else if source.isPrefixOf new.directory then .error .invalidArgument
      else if destination.isPrefixOf old.directory then .error .notEmpty
      else
        match (t.refusal? source).or (t.replaceFault? entry destination) with
        | some fault => .error fault
        | none => .ok (t.move source destination)
  | _, _ => .error .busy

end FileTree

end DesignGraph.Files
