import DesignGraph.Diagram.Kind
import DesignGraph.Dot.Statement
import DesignGraph.Graph.Basic

/-!
# Plain drawings

Every kind can be drawn with plain shapes: entities as records with the relations
between them, or components as boxes with every relation there is.
-/

namespace DesignGraph.Diagram

open Dot

def fontName : String := "Helvetica"

/-- How boxes and edges of a component drawing look. -/
structure Style where
  direction : String
  node : List Attribute
  edge : List Attribute

/-- A style of boxes of one shape and filling. -/
def Style.boxes (direction shape filling fill edgeColor : String) : Style where
  direction := direction
  node := [("shape", shape), ("style", filling), ("fillcolor", fill), ("fontname", fontName),
    ("fontsize", "11")]
  edge := [("color", edgeColor), ("fontname", fontName), ("fontsize", "9")]

def dependencyStyle : Style := .boxes "TB" "box" "rounded,filled" "#E8F4FD" "#4A90D9"

def interactionStyle : Style := .boxes "LR" "component" "filled" "#FFF3E0" "#E65100"

/-- The style of an architecture or domain diagram. -/
def architectureStyle : Style := .boxes "TB" "box" "filled" "#F3F6F9" "#7B8894"

def drawingAttributes (title direction : String) : Statement :=
  .graphAttributes [("label", title), ("labelloc", "t"), ("rankdir", direction),
    ("bgcolor", "white"), ("fontname", fontName)]

/-- The relations whose ends are both shown, as edges. -/
def edgesAmong (shown : String → Bool) (relations : RelationSet) : List Statement :=
  (relations.toList.filter fun r => shown r.source && shown r.target).map fun r =>
    .edge r.source r.target

/-- Entities as records, and the relations between entities. -/
def entityDrawing (graph : Graph) (title : String) : List Statement :=
  [drawingAttributes title "LR",
    .nodeDefaults [("shape", "record"), ("fontname", fontName), ("fontsize", "10")],
    .edgeDefaults [("fontname", fontName), ("fontsize", "9")]] ++
  graph.entities.toList.map (fun e => .recordNode e.name (recordLabel e.name e.fields)) ++
  edgesAmong graph.isEntity graph.relations

/-- Components as boxes, and every relation. -/
def componentDrawing (graph : Graph) (title : String) (style : Style) : List Statement :=
  [drawingAttributes title style.direction, .nodeDefaults style.node, .edgeDefaults style.edge] ++
  graph.components.map (fun name => .node name []) ++
  graph.relations.toList.map fun r => .edge r.source r.target

def plainDrawing (graph : Graph) (kind : Kind) (title : String) : List Statement :=
  match kind with
  | .er => entityDrawing graph title
  | .dependency => componentDrawing graph title dependencyStyle
  | .interaction => componentDrawing graph title interactionStyle
  | .architecture | .domain => componentDrawing graph title architectureStyle

end DesignGraph.Diagram
