import DesignGraph.Failure
import DesignGraph.Files.PathText
import DesignGraph.Text.Trim
import DesignGraph.Text.Utf8
import DesignGraph.Tool.Program

/-!
# Making the picture

The layout program writes the picture next to its path, and the finished file is then
moved there. So a run that fails leaves what stood at the path, and the unfinished file
is removed.
-/

namespace DesignGraph.Diagram

open Files Tool

/-- The layout program is run on a source to make a picture at a path. -/
def layOut (programs : Programs) (program source path : String) (files : FileTree) :
    Except Failure Unit × FileTree :=
  match run programs program ["-Tpng", "-o", path] source files with
  | .error .notFound => (.error (.backendUnavailable (.notFound program)), files)
  | .error fault => (.error (.renderFailed (.cannotStart program fault)), files)
  | .ok ending =>
    match ending.status with
    | .error fault => (.error (.renderFailed (.cannotWait program fault)), ending.files)
    | .ok status =>
      if status.isSuccess then (.ok (), ending.files)
      else
        let complaint := String.ofList (Text.trim (Text.decodeLossy ending.complaint))
        (.error (.renderFailed (.exited program status complaint)), ending.files)

/-- The files without the one at a path; if it cannot be removed, all of them. -/
def discard (files : FileTree) (path : String) : FileTree :=
  match files.removeFile path with
  | .ok rest => rest
  | .error _ => files

/-- The finished picture is moved to its path. -/
def moveIntoPlace (path target : String) (files : FileTree) : Except Failure Unit × FileTree :=
  match files.rename path target with
  | .ok moved => (.ok (), moved)
  | .error fault => (.error (.renderFailed (.cannotMove target fault)), files)

/-- A picture of a source is made at a path. -/
def makePicture (programs : Programs) (program source target : String) (files : FileTree) :
    Except Failure Unit × FileTree :=
  let scratch := partialPath target
  match layOut programs program source scratch files with
  | (.error failure, left) => (.error failure, discard left scratch)
  | (.ok (), left) =>
    match moveIntoPlace scratch target left with
    | (.error failure, left) => (.error failure, discard left scratch)
    | (.ok (), left) => (.ok (), left)

end DesignGraph.Diagram
