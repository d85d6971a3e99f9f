import DesignGraph.Proofs.Document.Run
import Mathlib.Data.List.DropRight
import Mathlib.Data.List.Induction

/-!
# The state of a scan as a function of the lines seen

Nothing in the state of a scan is stale: every field is what the lines seen so far say,
whatever came before them. `State.ofHistory` reads the fields off the lines without
stepping through them, and after any list of lines the state is exactly that.
-/
namespace DesignGraph.Document

namespace Line

def sectionTitle? : Line → Option (List Char)
  | .sectionHeading title => some title
  | _ => none

def subHeading? : Line → Option (List Char)
  | .subHeading text => some text
  | _ => none

def tableRow? : Line → Option (List Char)
  | .tableRow row => some row
  | _ => none

theorem sectionTitle?_eq_some {line : Line} {title : List Char} :
    line.sectionTitle? = some title ↔ line = .sectionHeading title := by
  cases line <;> simp [sectionTitle?]

theorem subHeading?_eq_some {line : Line} {text : List Char} :
    line.subHeading? = some text ↔ line = .subHeading text := by
  cases line <;> simp [subHeading?]

end Line

/-- What the last section heading says that the section lists. -/
def topicOf (seen : List Line) : Topic :=
  (seen.filterMap Line.sectionTitle?).getLast?.elim .other Topic.ofTitle

/-- The lines after the last section heading; all lines when there is none. -/
def underSection (seen : List Line) : List Line :=
  seen.rtakeWhile fun line => line.sectionTitle?.isNone

/-- The texts of the sub-headings, in order. -/
def subHeadings (lines : List Line) : List (List Char) := lines.filterMap Line.subHeading?

/-- The entities that sub-headings name, in order. -/
def headedEntities (lines : List Line) : List String :=
  (subHeadings lines).filterMap fun text => (entityName? text).map String.ofList

/-- The rows of the unbroken run of table rows that ends the lines. -/
def closingRows (seen : List Line) : List (List Char) :=
  (seen.rtakeWhile fun line => line.tableRow?.isSome).filterMap Line.tableRow?

/-- The name a sub-heading leaves for a component, unless nothing is left of it. -/
def headedComponent? (text : List Char) : Option String :=
  if (componentName text).isEmpty then none else some (String.ofList (componentName text))

/-- The component of the last sub-heading in a section of components. -/
def currentComponent? (seen : List Line) : Option String :=
  match topicOf seen with
  | .components => (subHeadings (underSection seen)).getLast?.bind headedComponent?
  | _ => none

/-- The last entity that a sub-heading named: in strict mode only one of the current
section, and only while that lists entities. -/
def currentEntity? (mode : Mode) (seen : List Line) : Option String :=
  match mode with
  | .strict =>
    match topicOf seen with
    | .entities => (headedEntities (underSection seen)).getLast?
    | _ => none
  | .relaxed => (headedEntities seen).getLast?

/-- The state that the lines seen so far call for. -/
def State.ofHistory (mode : Mode) (seen : List Line) : State where
  topic := topicOf seen
  component := currentComponent? seen
  entity := currentEntity? mode seen
  inRelationTable := (currentEntity? mode seen).isSome && (closingRows seen).any isRelationHeader

@[simp] theorem subHeadings_nil : subHeadings [] = [] := rfl

@[simp] theorem headedEntities_nil : headedEntities [] = [] := rfl

section Concat

variable (seen : List Line)

@[simp] theorem topicOf_concat (line : Line) :
    topicOf (seen ++ [line]) = line.sectionTitle?.elim (topicOf seen) Topic.ofTitle := by
  cases line <;> simp [topicOf, Line.sectionTitle?]

@[simp] theorem underSection_concat (line : Line) :
    underSection (seen ++ [line]) =
      if line.sectionTitle?.isNone then underSection seen ++ [line] else [] := by
  simp only [underSection, List.rtakeWhile_concat]

@[simp] theorem subHeadings_concat (line : Line) :
    subHeadings (seen ++ [line]) = subHeadings seen ++ line.subHeading?.toList := by
  cases line <;> simp [subHeadings, Line.subHeading?]

@[simp] theorem headedEntities_concat (line : Line) :
    headedEntities (seen ++ [line]) = headedEntities seen ++
      (line.subHeading?.bind fun text => (entityName? text).map String.ofList).toList := by
  rw [headedEntities, subHeadings_concat, List.filterMap_append, ← headedEntities]
  cases line.subHeading? with
  | none => rfl
  | some text => cases h : entityName? text <;> simp [h]

@[simp] theorem closingRows_concat (line : Line) :
    closingRows (seen ++ [line]) = line.tableRow?.elim [] fun row => closingRows seen ++ [row] := by
  cases line <;> simp [closingRows, Line.tableRow?]

end Concat

/-- A line that is no heading leaves topic, component and entity as they were. -/
theorem current_concat_of_no_heading (mode : Mode) (seen : List Line) (line : Line)
    (ht : line.sectionTitle? = none) (hs : line.subHeading? = none) :
    topicOf (seen ++ [line]) = topicOf seen ∧
      currentComponent? (seen ++ [line]) = currentComponent? seen ∧
      currentEntity? mode (seen ++ [line]) = currentEntity? mode seen := by
  refine ⟨by simp [ht], ?_, ?_⟩
  · simp [currentComponent?, ht, hs]
  · cases mode <;> simp [currentEntity?, ht, hs]

/-- A sub-heading makes the component current that the longer history ends with. -/
theorem State.componentHeading_ofHistory (mode : Mode) (seen : List Line) (text : List Char) :
    ((ofHistory mode seen).componentHeading text).1 =
      currentComponent? (seen ++ [.subHeading text]) := by
  cases h : topicOf seen <;>
    simp [componentHeading, ofHistory, currentComponent?, headedComponent?, Line.sectionTitle?,
      Line.subHeading?, h]

/-- A sub-heading makes the entity current that the longer history ends with, or leaves
the one that the shorter history ended with. -/
theorem State.entityHeading_ofHistory (mode : Mode) (seen : List Line) (text : List Char) :
    ((ofHistory mode seen).entityHeading mode text).1 =
      currentEntity? mode (seen ++ [.subHeading text]) := by
  cases mode with
  | strict =>
    cases h : topicOf seen <;> cases hn : entityName? text <;>
      simp [entityHeading, collectsEntities, ofHistory, currentEntity?, Line.sectionTitle?,
        Line.subHeading?, h, hn]
  | relaxed =>
    cases hn : entityName? text <;>
      simp [entityHeading, collectsEntities, ofHistory, currentEntity?, Line.subHeading?, hn]

/-- One line takes the state that the history calls for to the one that the longer
history calls for. -/
theorem State.ofHistory_concat (mode : Mode) (seen : List Line) (line : Line) :
    ((ofHistory mode seen).step mode line).state = ofHistory mode (seen ++ [line]) := by
  cases line with
  | sectionHeading title =>
    cases mode <;> cases h : Topic.ofTitle title <;>
      simp [step, openSection, ofHistory, currentComponent?, currentEntity?, Line.sectionTitle?,
        Line.subHeading?, Line.tableRow?, h]
  | subHeading text =>
    simp only [step, subHeading, componentHeading_ofHistory, entityHeading_ofHistory]
    simp [ofHistory, Line.sectionTitle?, Line.tableRow?]
  | tableRow row =>
    obtain ⟨ht, hc, he⟩ := current_concat_of_no_heading mode seen (.tableRow row) rfl rfl
    simp only [step, state_tableRow, ofHistory, ht, hc, he, closingRows_concat]
    cases currentEntity? mode seen with
    | none => rfl
    | some entity => simp [Line.tableRow?]
  | plain text =>
    obtain ⟨ht, hc, he⟩ := current_concat_of_no_heading mode seen (.plain text) rfl rfl
    simp [step, plainText, ofHistory, ht, hc, he, Line.tableRow?]

/-- After any lines the state is the one that their history calls for. -/
theorem State.after_initial (mode : Mode) (lines : List Line) :
    initial.after mode lines = ofHistory mode lines := by
  induction lines using List.reverseRecOn with
  | nil => cases mode <;> rfl
  | append_singleton seen line ih => rw [after_concat, ih, ofHistory_concat]

/-- A fact of a text is one of a single line, in the state that the lines before it call for. -/
theorem mem_facts_iff {mode : Mode} {text : List Char} {fact : Fact} :
    fact ∈ facts mode text ↔
      ∃ before line rest, (Text.lines text).map Line.classify = before ++ line :: rest ∧
        fact ∈ ((State.ofHistory mode before).step mode line).facts := by
  simp only [facts_eq_factsOf, State.mem_factsOf, State.after_initial]

/-- The state says of the lines seen what each of its fields is meant to say. -/
structure Summarizes (mode : Mode) (seen : List Line) (s : State) : Prop where
  /-- The topic is that of the last section heading. -/
  topic : s.topic = topicOf seen
  /-- A component is current if the last sub-heading under the last section heading, in a
  section of components, leaves its name. -/
  component : ∀ name, s.component = some name ↔ s.topic = .components ∧
    ∃ text, (subHeadings (underSection seen)).getLast? = some text ∧
      componentName text ≠ [] ∧ String.ofList (componentName text) = name
  /-- In strict mode an entity is current if a sub-heading under the last section heading,
  in a section of entities, was the last to name it. -/
  strict_entity : mode = .strict → ∀ name, s.entity = some name ↔
    s.topic = .entities ∧ (headedEntities (underSection seen)).getLast? = some name
  /-- In relaxed mode the last sub-heading that named an entity keeps it current. -/
  relaxed_entity : mode = .relaxed → s.entity = (headedEntities seen).getLast?
  /-- A relation table is open if an entity is current and the rows that end the lines
  hold a header. -/
  inRelationTable : s.inRelationTable = true ↔
    s.entity.isSome = true ∧ ∃ row ∈ closingRows seen, isRelationHeader row = true

theorem headedComponent?_eq_some {text : List Char} {name : String} :
    headedComponent? text = some name ↔
      componentName text ≠ [] ∧ String.ofList (componentName text) = name := by
  cases h : componentName text <;> simp [headedComponent?, h]

theorem ofHistory_summarizes (mode : Mode) (seen : List Line) :
    Summarizes mode seen (.ofHistory mode seen) where
  topic := rfl
  component name := by
    cases h : topicOf seen <;>
      simp [State.ofHistory, currentComponent?, Option.bind_eq_some_iff,
        headedComponent?_eq_some, h]
  strict_entity := by
    rintro rfl name
    cases h : topicOf seen <;> simp [State.ofHistory, currentEntity?, h]
  relaxed_entity := by
    rintro rfl
    rfl
  inRelationTable := by simp [State.ofHistory]

/-- At every line of any list of lines, in either mode, the scan takes a step, and the
state after it is exactly what the lines up to and including this one call for. -/
theorem step_summarizes_lines_seen (mode : Mode) (before rest : List Line) (line : Line) :
    ∃ step, (State.initial.steps mode (before ++ line :: rest))[before.length]? = some step ∧
      Summarizes mode (before ++ [line]) step.state := by
  refine ⟨_, State.getElem?_steps_at mode .initial before rest line, ?_⟩
  rw [State.after_initial, State.ofHistory_concat]
  exact ofHistory_summarizes mode (before ++ [line])

end DesignGraph.Document
