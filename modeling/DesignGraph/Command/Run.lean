import DesignGraph.Attachment.Client
import DesignGraph.Attachment.HostConfig
import DesignGraph.Command.Line
import DesignGraph.Diagram.Render
import DesignGraph.Graph.Extract
import DesignGraph.Outcome

/-!
# Running a command

What each command does with the files, the programs and the server it is given, and what
the run prints and returns: one line for every outcome and nothing for a mistake of
usage.
-/

namespace DesignGraph.Command

open Attachment Files Tool

/-- What surrounds a run and is not its own: other programs, the server of the wiki, the
environment variables, and what the client of the wiki is set up with. -/
structure World (σ : Type) where
  programs : Programs
  server : Server σ
  environment : Environment
  /-- A client that looks at certificates, or at none, can be set up. -/
  client : Bool → Except String Unit := fun _ => .ok ()
  /-- Requests can be made. -/
  runtime : Except Fault Unit := .ok ()

def readDocument (files : FileTree) (path : String) : Except Failure String :=
  match files.readText path with
  | .ok text => .ok text
  | .error .notFound => .error (.inputNotFound path)
  | .error fault => .error (.io fault)

/-- The graph of a document that is read from a file. -/
def readGraph (files : FileTree) (path : String) (mode : Document.Mode) :
    Except Failure Graph :=
  (readDocument files path).map (Graph.extract mode)

def kindOf (text : String) : Except Failure Diagram.Kind :=
  match Diagram.Kind.ofName? text with
  | some kind => .ok kind
  | none => .error (.unsupportedKind text)

/-- A diagram is drawn. The kind is looked at before the document is read. -/
def drawDiagram (programs : Programs) (options : DiagramOptions) (files : FileTree) :
    Outcome × FileTree :=
  match kindOf options.kind with
  | .error failure => (.failed failure, files)
  | .ok kind =>
    match readGraph files options.input options.mode with
    | .error failure => (.failed failure, files)
    | .ok graph =>
      match Diagram.render programs options.setup ⟨kind, options.title, options.output⟩ graph
        files with
      | (.ok path, files) => (.diagram path kind, files)
      | (.error failure, files) => (.failed failure, files)

def printGraph (options : ExtractOptions) (files : FileTree) : Outcome :=
  match readGraph files options.input options.mode with
  | .ok graph => .graph graph
  | .error failure => .failed failure

/-- The path of the host configuration: as given, or below the home directory. -/
def configOf (environment : Environment) (options : UploadOptions) : Except Failure String :=
  match options.config with
  | some path => .ok path
  | none =>
    match environment.lookup homeVariable with
    | some home => .ok (configPath home)
    | none => .error (.configUnusable .noHome)

/-- The credentials of the server that was asked for. -/
def credentialsOf (environment : Environment) (options : UploadOptions) (files : FileTree) :
    Except Failure Credentials := do
  loadCredentials files (← configOf environment options) options.server

/-- The client of the wiki is set up, to look at certificates or at none. -/
def World.setUp {σ : Type} (world : World σ) (verifyTls : Bool) : Except Failure Unit :=
  match world.client verifyTls with
  | .ok () => world.runtime.mapError .io
  | .error reason => .error (.backendUnavailable (.noClient reason))

/-- The credentials of a client that has been set up. -/
def clientOf {σ : Type} (world : World σ) (options : UploadOptions) (files : FileTree) :
    Except Failure Credentials := do
  let credentials ← credentialsOf world.environment options files
  world.setUp credentials.verifyTls
  return credentials

def attachFiles {σ : Type} (world : World σ) (options : UploadOptions) (files : FileTree) :
    StateM σ Outcome :=
  match clientOf world options files with
  | .error failure => return .failed failure
  | .ok credentials => do
    let result ← upload (fun page path => attachFile world.server credentials files page path)
      files options.pageId options.paths
    return .ofUpload result

/-- What a command comes to, and the files it leaves. -/
def perform {σ : Type} (world : World σ) (line : Line) (files : FileTree) :
    StateM σ (Outcome × FileTree) :=
  match line with
  | .diagram options => return drawDiagram world.programs options files
  | .extract options => return (printGraph options files, files)
  | .upload options => return (← attachFiles world options files, files)

/-- What the words of a command line come to: nothing for a mistake of usage. -/
def run {σ : Type} (world : World σ) (words : List String) (files : FileTree) :
    StateM σ (Option Outcome × FileTree) :=
  match Line.read world.environment words with
  | none => return (none, files)
  | some line => do
    let (outcome, files) ← perform world line files
    return (some outcome, files)

def printed : Option Outcome → String
  | some outcome => outcome.line ++ "\n"
  | none => ""

def exitCode : Option Outcome → Nat
  | some outcome => if outcome.isSuccess then 0 else 1
  | none => 2

end DesignGraph.Command
