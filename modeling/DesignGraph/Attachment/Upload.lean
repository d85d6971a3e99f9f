import DesignGraph.Failure
import DesignGraph.Files.FileTree

/-!
# Attaching files

All files are looked for before the first one is attached. They are then attached one
after the other, and a file that is refused does not stop the rest; the report says what
became of each.
-/

namespace DesignGraph.Attachment

open Files

/-- A file that was attached, and the name it was given. -/
structure Uploaded where
  file : String
  name : String
  deriving DecidableEq, Repr

/-- A file that was not attached, and why. -/
structure Rejected where
  file : String
  error : String
  deriving DecidableEq, Repr

/-- What became of the files, in their order. -/
structure Report where
  pageId : String
  uploaded : List Uploaded
  rejected : List Rejected
  deriving DecidableEq, Repr

/-- Files were given and none was attached. -/
def Report.allFailed (report : Report) : Bool :=
  report.uploaded.isEmpty && !report.rejected.isEmpty

/-- A service that attaches a file to a page, and may remember what it wants to. -/
abbrev Service (σ : Type) := (pageId path : String) → StateM σ (Except Failure String)

/-- Every path is a file; the first that is none otherwise. -/
def checkFiles (files : FileTree) (paths : List String) : Except Failure Unit :=
  match paths.find? fun path => !files.isFile path with
  | some path => .error (.inputNotFound path)
  | none => .ok ()

/-- The report with what became of one more file. -/
def Report.add (report : Report) (path : String) : Except Failure String → Report
  | .ok name => { report with uploaded := report.uploaded ++ [⟨path, name⟩] }
  | .error failure => { report with rejected := report.rejected ++ [⟨path, failure.message⟩] }

/-- The files are attached one after the other. -/
def attachAll {σ : Type} (service : Service σ) (report : Report) :
    List String → StateM σ Report
  | [] => return report
  | path :: rest => do
    let result ← service report.pageId path
    attachAll service (report.add path result) rest

/-- The files are attached to the page, if all of them are there. -/
def upload {σ : Type} (service : Service σ) (files : FileTree) (pageId : String)
    (paths : List String) : StateM σ (Except Failure Report) :=
  match checkFiles files paths with
  | .error failure => return .error failure
  | .ok () => return .ok (← attachAll service ⟨pageId, [], []⟩ paths)

end DesignGraph.Attachment
