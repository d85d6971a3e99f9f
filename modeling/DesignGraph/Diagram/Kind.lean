import DesignGraph.Text.Trim

/-!
# Kinds of diagram

The views in which a document can be drawn, their names, and the title of a diagram for
which none is asked.
-/

namespace DesignGraph.Diagram

open Text

/-- A view of a document. -/
inductive Kind where
  | architecture
  | dependency
  | er
  | interaction
  | domain
  deriving DecidableEq, Repr

namespace Kind

def all : List Kind := [.architecture, .dependency, .er, .interaction, .domain]

def name : Kind → String
  | .architecture => "architecture"
  | .dependency => "dependency"
  | .er => "er"
  | .interaction => "interaction"
  | .domain => "domain"

def defaultTitle : Kind → String
  | .architecture => "Architecture"
  | .dependency => "Module Dependencies"
  | .er => "ER Diagram"
  | .interaction => "Component Interaction"
  | .domain => "Domain Boundaries"

/-- The kind is drawn with icons where there are any. -/
def prefersIcons : Kind → Bool
  | .architecture => true
  | .domain => true
  | _ => false

/-- The kind of that name, blanks around it and letter case aside. -/
def ofName? (text : String) : Option Kind :=
  all.find? fun kind => sameIgnoringCase kind.name.toList (trim text.toList)

/-- The title to draw: the one asked for, without blanks around it, or the kind's own. -/
def title (kind : Kind) (asked : Option String) : String :=
  match asked.map trimmed with
  | some text => if text = "" then kind.defaultTitle else text
  | none => kind.defaultTitle

end Kind

end DesignGraph.Diagram
