import DesignGraph.Document.Dependency
import DesignGraph.Document.Line
import DesignGraph.Document.Title
import DesignGraph.Graph.RelationSet
import DesignGraph.Text.Lines

/-!
# Scanning a document

One forward pass over the lines. The state says which kind of section the pass is in,
the component and the entity that the next lines belong to, and whether it is inside a
relation table. Each line gives the next state and the facts it contributes.
-/

namespace DesignGraph.Document

/-- How strictly entity headings are tied to entity sections. -/
inductive Mode where
  /-- Entities are named in entity sections alone. -/
  | strict
  /-- Any capitalized sub-heading names an entity, and the current entity outlives its
  section. -/
  | relaxed
  deriving DecidableEq, Repr

/-- What the current section lists. -/
inductive Topic where
  | other
  | components
  | entities
  deriving DecidableEq, Repr

/-- The topic that a section title opens; a title that fits both lists components. -/
def Topic.ofTitle (title : List Char) : Topic :=
  if isComponentTitle title then .components
  else if isEntityTitle title then .entities
  else .other

/-- What the pass remembers between two lines. -/
structure State where
  topic : Topic
  component : Option String
  entity : Option String
  inRelationTable : Bool
  deriving DecidableEq, Repr

def State.initial : State := ⟨.other, none, none, false⟩

/-- What a line says about the system. -/
inductive Fact where
  | component (name : String)
  | entity (name : String)
  | field (entity name : String)
  | dependency (relation : Relation)
  | tableRelation (relation : Relation)
  deriving DecidableEq, Repr

/-- The state after a line and the facts of that line. -/
structure Step where
  state : State
  facts : List Fact
  deriving DecidableEq, Repr

namespace State

/-- After a section heading. The current component is gone in any case, the current
entity in strict mode. -/
def openSection (s : State) (mode : Mode) (title : List Char) : State where
  topic := .ofTitle title
  component := none
  entity := match mode with
    | .strict => none
    | .relaxed => s.entity
  inRelationTable := false

def collectsEntities (s : State) (mode : Mode) : Bool :=
  match mode with
  | .strict => s.topic == .entities
  | .relaxed => true

/-- The component a sub-heading makes current, and the fact it gives. A name that is
too long is current all the same and only gives no fact. -/
def componentHeading (s : State) (text : List Char) : Option String × List Fact :=
  match s.topic with
  | .components =>
    let name := componentName text
    (if name.isEmpty then none else some (String.ofList name),
      if isPlausibleName name then [.component (String.ofList name)] else [])
  | _ => (s.component, [])

/-- The entity a sub-heading makes current, and the fact it gives. One that names no
entity leaves the previous entity current. -/
def entityHeading (s : State) (mode : Mode) (text : List Char) : Option String × List Fact :=
  match if s.collectsEntities mode then entityName? text else none with
  | some name => (some (String.ofList name), [.entity (String.ofList name)])
  | none => (s.entity, [])

def subHeading (s : State) (mode : Mode) (text : List Char) : Step :=
  let (component, componentFacts) := s.componentHeading text
  let (entity, entityFacts) := s.entityHeading mode text
  ⟨{ s with component, entity, inRelationTable := false }, componentFacts ++ entityFacts⟩

/-- The field that a row gives to an entity. -/
def fieldFacts (entity : String) (row : List Char) : List Fact :=
  ((fieldName? row).map (Fact.field entity)).toList

/-- The relation that a row of a relation table gives to an entity. -/
def targetFacts (entity : String) (row : List Char) : List Fact :=
  ((tableTarget? row).map fun target => Fact.tableRelation ⟨entity, target⟩).toList

/-- After a table row. Rows without a current entity say nothing. A header opens a
relation table; inside one, a row may give both a relation and a field. -/
def tableRow (s : State) (row : List Char) : Step :=
  match s.entity with
  | none => ⟨s, []⟩
  | some entity =>
    if s.inRelationTable then ⟨s, targetFacts entity row ++ fieldFacts entity row⟩
    else if isRelationHeader row then ⟨{ s with inRelationTable := true }, []⟩
    else ⟨s, fieldFacts entity row⟩

/-- After a line of plain text, which ends a relation table and, under a component, may
list dependencies. -/
def plainText (s : State) (text : List Char) : Step :=
  ⟨{ s with inRelationTable := false },
    match s.topic, s.component with
    | .components, some component =>
      (dependencyTargets text).map fun target => .dependency ⟨component, target⟩
    | _, _ => []⟩

def step (s : State) (mode : Mode) : Line → Step
  | .sectionHeading title => ⟨s.openSection mode title, []⟩
  | .subHeading text => s.subHeading mode text
  | .tableRow row => s.tableRow row
  | .plain text => s.plainText text

/-- The steps of a list of lines, one after the other. -/
def steps (mode : Mode) (s : State) : List Line → List Step
  | [] => []
  | line :: rest => s.step mode line :: steps mode (s.step mode line).state rest

end State

/-- The steps of a text, one for each of its lines. -/
def scan (mode : Mode) (text : List Char) : List Step :=
  State.initial.steps mode ((Text.lines text).map Line.classify)

def facts (mode : Mode) (text : List Char) : List Fact := (scan mode text).flatMap Step.facts

end DesignGraph.Document
