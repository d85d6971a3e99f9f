import DesignGraph.Command.Run

/-!
# The program

The outer layer, which alone touches the system. It reads what the command names before
anything else is done, and what is left is a computation on that tree of files. It starts
no program and sends nothing: here a graph can be printed, while a picture ends with a
layout program that cannot be run and an attachment with a server that does not answer.
Whoever has programs and a server gives them to `Command.run`.
-/

namespace DesignGraph.Main

open Attachment Command Files Tool

/-- The environment variables that a command looks at and that are set. -/
def readEnvironment : IO Environment :=
  [dotVariable, iconVariable, configVariable, homeVariable].filterMapM fun name =>
    return (← IO.getEnv name).map (name, ·)

/-- The paths of the files that a command reads. -/
def pathsOf (environment : Environment) : Line → List String
  | .diagram options =>
    options.input ::
      (options.setup.iconDirectory.map (joinPath · Diagram.iconName)).toList
  | .extract options => [options.input]
  | .upload options => (configOf environment options).toOption.toList ++ options.paths

/-- The places that a path goes through, each with the beginning of the path that leads
there. -/
def stations (place : Place) (text : String) : List String → List (Place × String)
  | [] => []
  | part :: rest =>
    let next :=
      if part = "." then place else if part = ".." then place.dropLast else place ++ [part]
    (next, text ++ part) :: stations next (text ++ part ++ "/") rest

/-- The places that a path goes through from where it begins. -/
def stationsOf (start : Place) (path : String) : List (Place × String) :=
  if path.startsWith '/' then stations [] "/" (FileTree.parts path)
  else stations start "" (FileTree.parts path)

/-- What the system has at a path. A file that cannot be read counts as absent. -/
def readEntry (path : String) : IO (Option Entry) := do
  try
    return some (.file (← IO.FS.readBinFile path).toList false)
  catch
    | .inappropriateType _ 21 _ => return some .directory
    | _ => return none

/-- The tree with what the system has on the way of a path. -/
def look (tree : FileTree) (path : String) : IO FileTree :=
  (stationsOf tree.start path).foldlM
    (fun tree (place, text) => do
      match tree.entry? place, ← readEntry text with
      | none, some entry => return tree.put place entry
      | _, _ => return tree)
    tree

/-- The tree of the directory that a run starts in, without its files. -/
def startTree (directory : String) : FileTree :=
  let start := FileTree.parts directory
  { start, entries := (stations [] "/" start).map fun (place, _) => (place, .directory) }

/-- The tree with everything that the command reads. -/
def readTree (environment : Environment) (words : List String) : IO FileTree := do
  let paths := ((Line.read environment words).map (pathsOf environment)).getD []
  paths.foldlM look (startTree (toString (← IO.currentDir)))

/-- Nothing around a run but the environment: no program starts and no server answers. -/
def alone (environment : Environment) : World Unit where
  programs _ _ _ _ := .error (.reported "no program can be started")
  server _ := return .noAnswer
  environment

end DesignGraph.Main

/-- One command is run on the files of the system. -/
def main (words : List String) : IO UInt32 := do
  let environment ← DesignGraph.Main.readEnvironment
  let tree ← DesignGraph.Main.readTree environment words
  let ((outcome, _), _) :=
    DesignGraph.Command.run (DesignGraph.Main.alone environment) words tree ()
  (← IO.getStdout).putStr (DesignGraph.Command.printed outcome)
  return (DesignGraph.Command.exitCode outcome).toUInt32
