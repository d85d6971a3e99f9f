import DesignGraph.Dot.Quote

/-!
# DOT source

A drawing is a list of statements. Written out, each takes a line of its own, indented
by two spaces for every level; a cluster raises the level until it is closed.
-/

namespace DesignGraph.Dot

abbrev Attribute := String × String

/-- One statement of a drawing. -/
inductive Statement where
  | graphAttributes (attributes : List Attribute)
  | nodeDefaults (attributes : List Attribute)
  | edgeDefaults (attributes : List Attribute)
  | node (id : String) (attributes : List Attribute)
  /-- A node with a record label, which is already escaped. -/
  | recordNode (id : String) (label : List Char)
  | edge (source target : String)
  | openCluster (name : String) (attributes : List Attribute)
  | closeCluster
  deriving DecidableEq, Repr

def writeAttributes (attributes : List Attribute) : List Char :=
  [',', ' '].intercalate
    (attributes.map fun (name, value) => name.toList ++ '=' :: quote value.toList)

def bracketed (word : List Char) (attributes : List Attribute) : List Char :=
  word ++ " [".toList ++ writeAttributes attributes ++ [']']

def lineAt (level : Nat) (text : List Char) : List Char :=
  List.replicate (2 * level) ' ' ++ text ++ ['\n']

def statementAt (level : Nat) (text : List Char) : List Char := lineAt level (text ++ [';'])

namespace Statement

/-- The lines of a statement that stands at a level, and the level after it. Closing more
clusters than were opened leaves the level at zero. -/
def write (level : Nat) : Statement → List Char × Nat
  | .graphAttributes attributes =>
    (statementAt level (bracketed "graph".toList attributes), level)
  | .nodeDefaults attributes => (statementAt level (bracketed "node".toList attributes), level)
  | .edgeDefaults attributes => (statementAt level (bracketed "edge".toList attributes), level)
  | .node id [] => (statementAt level (quote id.toList), level)
  | .node id attributes => (statementAt level (bracketed (quote id.toList) attributes), level)
  | .recordNode id label =>
    (statementAt level (quote id.toList ++ " [label=\"".toList ++ label ++ "\"]".toList), level)
  | .edge source target =>
    (statementAt level (quote source.toList ++ " -> ".toList ++ quote target.toList), level)
  | .openCluster name attributes =>
    (lineAt level ("subgraph ".toList ++ quote ("cluster_".toList ++ name.toList) ++ [' ', '\x7b'])
      ++ statementAt (level + 1) (bracketed "graph".toList attributes), level + 1)
  | .closeCluster => (lineAt (level - 1) ['\x7d'], level - 1)

/-- The lines of statements from a level on. -/
def writeAll (level : Nat) : List Statement → List Char
  | [] => []
  | s :: rest => (s.write level).1 ++ writeAll (s.write level).2 rest

end Statement

def source (statements : List Statement) : String :=
  String.ofList ("digraph \x7b\n".toList ++ Statement.writeAll 1 statements ++ "\x7d\n".toList)

end DesignGraph.Dot
