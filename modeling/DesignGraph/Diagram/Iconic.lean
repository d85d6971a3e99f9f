import DesignGraph.Diagram.Plain

/-!
# Drawings with icons

Components as icons with their names below. Only the first few are drawn, so that the
picture stays legible, and of the relations those between drawn components. A domain
diagram puts the icons into one cluster.
-/

namespace DesignGraph.Diagram

open Dot

def shownIcons : Nat := 15

def drawnComponents (graph : Graph) : List String := graph.components.take shownIcons

def iconDefaults (icon : String) : Statement :=
  .nodeDefaults [("shape", "none"), ("image", icon), ("imagescale", "true"),
    ("fixedsize", "true"), ("width", "1.4"), ("height", "1.4"), ("labelloc", "b"),
    ("fontname", fontName), ("fontsize", "10")]

/-- Statements inside the cluster of a domain diagram. -/
def clustered (kind : Kind) (title : String) (body : List Statement) : List Statement :=
  match kind with
  | .domain =>
    .openCluster "domain" [("label", title), ("style", "filled"), ("bgcolor", "#E5F5FD")] ::
      body ++ [.closeCluster]
  | _ => body

/-- The drawing of a graph with this icon for every component. -/
def iconicDrawing (graph : Graph) (kind : Kind) (title icon : String) : List Statement :=
  [.graphAttributes [("label", title), ("labelloc", "t"), ("rankdir", "TB"), ("pad", "0.5"),
      ("bgcolor", "white"), ("fontname", fontName)],
    iconDefaults icon,
    .edgeDefaults [("color", "#7B8894")]] ++
  clustered kind title ((drawnComponents graph).map fun name => .node name []) ++
  edgesAmong (fun name => decide (name ∈ drawnComponents graph)) graph.relations

end DesignGraph.Diagram
