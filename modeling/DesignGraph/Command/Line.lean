import DesignGraph.Command.Options
import DesignGraph.Diagram.Backend
import DesignGraph.Document.Scan

/-!
# The command line

Three commands: one draws a diagram, one prints the graph, one attaches files to a page.
A line that spells none of them is a mistake of usage.
-/

namespace DesignGraph.Command

open Document

/-- A diagram of a document is to be drawn. The kind is still a name. -/
structure DiagramOptions where
  kind : String
  input : String
  output : String
  title : Option String
  mode : Mode
  setup : Diagram.Setup
  deriving DecidableEq, Repr

/-- The graph of a document is to be printed. -/
structure ExtractOptions where
  input : String
  mode : Mode
  deriving DecidableEq, Repr

/-- Files are to be attached to a page. -/
structure UploadOptions where
  server : String
  pageId : String
  paths : List String
  config : Option String
  deriving DecidableEq, Repr

/-- A command with its options. -/
inductive Line where
  | diagram (options : DiagramOptions)
  | extract (options : ExtractOptions)
  | upload (options : UploadOptions)
  deriving DecidableEq, Repr

def modeOf (given : Given) : Mode := if flagged given "relaxed" then .relaxed else .strict

/-- The options of a command, each at most once but for those that may be repeated. -/
def readGiven (known : Known) (repeatable : List String) (words : List String) :
    Option Given := do
  let given ← readOptions ((verbose, .flag) :: known) words
  guard (repeatsOnly (verbose :: repeatable) given)
  return given

abbrev Environment := List (String × String)

def dotVariable : String := "SPECGRAPH_DOT"

/-- The variable of the directory of icons. -/
def iconVariable : String := "SPECGRAPH_ICON_DIR"

/-- The variable of the host configuration. -/
def configVariable : String := "SPECGRAPH_HOST_CONFIG"

def homeVariable : String := "HOME"

def DiagramOptions.read (environment : Environment) (words : List String) :
    Option DiagramOptions := do
  let given ← readGiven [("type", .value), ("input", .value), ("output", .value),
    ("title", .value), ("relaxed", .flag), ("dot", .value), ("icon-dir", .value)] [] words
  let program ← pathOption given environment "dot" dotVariable
  let iconDirectory ← pathOption given environment "icon-dir" iconVariable
  return {
    kind := ← optional given "type"
    input := ← (optional given "input").bind path?
    output := ← (optional given "output").bind path?
    title := optional given "title"
    mode := modeOf given
    setup := ⟨program.getD Diagram.Setup.standard.program, iconDirectory⟩ }

def ExtractOptions.read (words : List String) : Option ExtractOptions := do
  let given ← readGiven [("input", .value), ("relaxed", .flag)] [] words
  return { input := ← (optional given "input").bind path?, mode := modeOf given }

def UploadOptions.read (environment : Environment) (words : List String) :
    Option UploadOptions := do
  let given ← readGiven [("server", .value), ("page-id", .value), ("file", .value),
    ("config", .value)] ["file"] words
  let config ← pathOption given environment "config" configVariable
  let paths ← (repeated given "file").mapM path?
  guard (!paths.isEmpty)
  return {
    server := ← optional given "server"
    pageId := ← optional given "page-id"
    paths
    config }

/-- The words after those that only make the log speak. -/
def skipVerbose (words : List String) : List String :=
  words.dropWhile fun word => word == "--verbose" || isShortVerbose word.toList

/-- The command that the words spell; none is a mistake of usage. -/
def Line.read (environment : Environment) (words : List String) : Option Line :=
  match skipVerbose words with
  | "diagram" :: rest => (DiagramOptions.read environment rest).map .diagram
  | "extract" :: rest => (ExtractOptions.read rest).map .extract
  | "upload" :: rest => (UploadOptions.read environment rest).map .upload
  | _ => none

end DesignGraph.Command
