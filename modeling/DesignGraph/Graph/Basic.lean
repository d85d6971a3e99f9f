import DesignGraph.Graph.RelationSet
import DesignGraph.Graph.EntityTable

/-!
# The structural graph of a document

Components in the order of first appearance, entities with their fields, and the
relations between names. A relation may name what is neither component nor entity.
-/

namespace DesignGraph

/-- Components, entities and relations of one document. -/
structure Graph where
  components : List String
  entities : EntityTable
  relations : RelationSet
  deriving DecidableEq, Repr

namespace Graph

def fields? (g : Graph) (entity : String) : Option (List String) := g.entities.fields? entity

def isEntity (g : Graph) (name : String) : Bool := g.entities.contains name

/-- The graph relates the first name to the second. -/
def hasRelation (g : Graph) (source target : String) : Bool := g.relations.contains source target

def entityCount (g : Graph) : Nat := g.entities.size

end Graph

end DesignGraph
