import DesignGraph.Diagram.Iconic
import DesignGraph.Failure
import DesignGraph.Files.PathText
import DesignGraph.Tool.Program

/-!
# What can be drawn with

Before anything is drawn, the layout program is asked for its version and the icon is
looked for. Icons are used for the kinds that prefer them when they are there; every
kind can be drawn without.
-/

namespace DesignGraph.Diagram

open Files Tool

/-- The layout program and the directory of icons. -/
structure Setup where
  program : String
  iconDirectory : Option String
  deriving DecidableEq, Repr

def Setup.standard : Setup := ⟨"dot", none⟩

/-- Why there are no icons. -/
inductive IconFault where
  | noDirectory
  | missing (directory : String)
  deriving DecidableEq, Repr

def iconName : String := "rack.png"

def IconFault.message : IconFault → String
  | .noDirectory => "no icon directory configured"
  | .missing directory => "icon " ++ inCodeQuotes iconName ++ " not found in " ++ directory

/-- The path of the icon, if the directory has it. -/
def findIcon (files : FileTree) (iconDirectory : Option String) : Except IconFault String :=
  match iconDirectory with
  | none => .error .noDirectory
  | some directory =>
    let icon := joinPath directory iconName
    if files.isFile icon then .ok icon else .error (.missing directory)

/-- The layout program answers when asked for its version. -/
def probeProgram (programs : Programs) (program : String) (files : FileTree) :
    Except BackendFault Unit × FileTree :=
  match run programs program ["-V"] "" files with
  | .ok ending =>
    match ending.status with
    | .error fault => (.error (.cannotRun program fault), ending.files)
    | .ok status =>
      (if status.isSuccess then .ok () else .error (.exited program status), ending.files)
  | .error fault => (.error (.cannotRun program fault), files)

/-- How a diagram is drawn. -/
inductive Backend where
  | plain
  | iconic (icon : String)
  deriving DecidableEq, Repr

namespace Backend

/-- The backend for a kind, given what icons there are. -/
def choose (kind : Kind) (icons : Except IconFault String) : Backend :=
  match icons with
  | .ok icon => if kind.prefersIcons then .iconic icon else .plain
  | .error _ => .plain

def name : Backend → String
  | .plain => "generic"
  | .iconic _ => "iconographic"

def drawing (backend : Backend) (graph : Graph) (kind : Kind) (title : String) :
    List Dot.Statement :=
  match backend with
  | .plain => plainDrawing graph kind title
  | .iconic icon => iconicDrawing graph kind title icon

end Backend

end DesignGraph.Diagram
