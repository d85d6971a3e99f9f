import DesignGraph.Diagram.Backend
import DesignGraph.Diagram.Image

/-!
# Drawing a graph

The layout program is probed, the backend is chosen, and the picture of the drawing is
made. The result is the path of the picture.
-/

namespace DesignGraph.Diagram

open Files Tool

/-- A diagram to draw. -/
structure Request where
  kind : Kind
  title : Option String
  output : String
  deriving DecidableEq, Repr

/-- A graph is drawn as asked; the path of the picture. -/
def render (programs : Programs) (setup : Setup) (request : Request) (graph : Graph)
    (files : FileTree) : Except Failure String × FileTree :=
  match probeProgram programs setup.program files with
  | (.error fault, files) => (.error (.backendUnavailable fault), files)
  | (.ok (), files) =>
    let backend := Backend.choose request.kind (findIcon files setup.iconDirectory)
    let title := request.kind.title request.title
    let source := Dot.source (backend.drawing graph request.kind title)
    let target := pngPath request.output
    match makePicture programs setup.program source target files with
    | (.ok (), files) => (.ok target, files)
    | (.error failure, files) => (.error failure, files)

end DesignGraph.Diagram
