import DesignGraph.Document.Arrow
import DesignGraph.Document.Scan
import DesignGraph.Graph.Basic

/-!
# The graph of a document

The facts of the scan and the arrows of the raw text make one graph. Extraction never
fails: what it does not recognize leaves the graph sparser.
-/

namespace DesignGraph

open Document

namespace Document.Fact

def componentName? : Fact → Option String
  | .component name => some name
  | _ => none

def dependency? : Fact → Option Relation
  | .dependency relation => some relation
  | _ => none

/-- The relation of a relation table that a fact adds. -/
def tableRelation? : Fact → Option Relation
  | .tableRelation relation => some relation
  | _ => none

end Document.Fact

/-- The table after a fact: an entity is declared, a field goes to its entity. -/
def EntityTable.record (t : EntityTable) : Fact → EntityTable
  | .entity name => t.declare name
  | .field entity name => t.pushField entity name
  | _ => t

namespace Graph

/-- The graph of these facts and arrows. A component counts once, where it first appears. -/
def ofFacts (facts : List Fact) (arrows : List Relation) : Graph where
  components := (facts.filterMap Fact.componentName?).eraseDups
  entities := facts.foldl EntityTable.record .empty
  relations := .merge (facts.filterMap Fact.dependency?) (facts.filterMap Fact.tableRelation?)
    arrows

def extract (mode : Mode) (text : String) : Graph :=
  ofFacts (facts mode text.toList) (arrowPairs text.toList)

end Graph

end DesignGraph
