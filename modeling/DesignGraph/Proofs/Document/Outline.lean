import DesignGraph.Proofs.Document.ArrowPairs
import DesignGraph.Proofs.Document.Printed
import DesignGraph.Proofs.Document.Run
import DesignGraph.Proofs.Text.Lines

/-!
# Outlines

An outline lists components with their dependencies and entities with their fields and
relations. Printed as a document in the canonical form, one section for each list, it gives
in strict mode the facts that it was printed from and no others.
-/
namespace DesignGraph.Document

open Text

/-- A component and what it depends on. -/
structure ComponentEntry where
  name : String
  targets : List String
  deriving DecidableEq, Repr

/-- A row of a relation table. -/
structure RelationEntry where
  label : String
  target : String
  deriving DecidableEq, Repr

/-- An entity, its fields, and the rows of its relation table. -/
structure EntityEntry where
  name : String
  fields : List String
  relations : List RelationEntry
  deriving DecidableEq, Repr

/-- What a canonical document lists. -/
structure Outline where
  components : List ComponentEntry
  entities : List EntityEntry
  deriving DecidableEq, Repr

/-! ## Printing -/

/-- The lines of a component; without dependencies it has no item for them. -/
def ComponentEntry.lines (m : ComponentEntry) : List (List Char) :=
  headingLine m.name :: if m.targets = [] then [] else [dependencyLine m.targets]

/-- The rows of an entity; without relations it has no relation table. -/
def EntityEntry.rows (e : EntityEntry) : List (List Char) :=
  e.fields.map (fun field => rowLine [field]) ++
    if e.relations = [] then []
    else rowLine ["relation", "target"] :: e.relations.map fun r => rowLine [r.label, r.target]

def EntityEntry.lines (e : EntityEntry) : List (List Char) := headingLine e.name :: e.rows

def Outline.lines (o : Outline) : List (List Char) :=
  "## Components".toList :: o.components.flatMap ComponentEntry.lines ++
    "## Entities".toList :: o.entities.flatMap EntityEntry.lines

/-- The text of a document, with a line feed after every line. -/
def Outline.text (o : Outline) : String := String.ofList (ofLines o.lines)

/-! ## Canonical names -/

/-- An identifier that is no word of a table header. -/
def IsFieldName (name : String) : Prop := IsIdentifier name.toList ∧ name ∉ headerTokens

instance (name : String) : Decidable (IsFieldName name) :=
  inferInstanceAs (Decidable (IsIdentifier name.toList ∧ name ∉ headerTokens))

/-- The component has a short name without emphasis, and its targets are such names too and
none of the words for no dependency. -/
def ComponentEntry.Canonical (m : ComponentEntry) : Prop :=
  IsPlainName m.name ∧ m.name.toList.length < longestName ∧
    ∀ target ∈ m.targets, IsPlainName target ∧ saysNone target.toList = false

instance (m : ComponentEntry) : Decidable m.Canonical :=
  inferInstanceAs (Decidable (IsPlainName m.name ∧ m.name.toList.length < longestName ∧
    ∀ target ∈ m.targets, IsPlainName target ∧ saysNone target.toList = false))

/-- The label of a relation is a field name, its target an identifier and no title. -/
def RelationEntry.Canonical (r : RelationEntry) : Prop :=
  IsFieldName r.label ∧ IsIdentifier r.target.toList ∧ r.target ≠ targetTitleCell

instance (r : RelationEntry) : Decidable r.Canonical :=
  inferInstanceAs (Decidable (IsFieldName r.label ∧ IsIdentifier r.target.toList ∧
    r.target ≠ targetTitleCell))

/-- The entity has a capitalized identifier, and its fields and relations are canonical. -/
def EntityEntry.Canonical (e : EntityEntry) : Prop :=
  IsIdentifier e.name.toList ∧ e.name.toList.head?.any isUppercase = true ∧
    (∀ field ∈ e.fields, IsFieldName field) ∧ ∀ r ∈ e.relations, r.Canonical

instance (e : EntityEntry) : Decidable e.Canonical :=
  inferInstanceAs (Decidable (IsIdentifier e.name.toList ∧
    e.name.toList.head?.any isUppercase = true ∧
      (∀ field ∈ e.fields, IsFieldName field) ∧ ∀ r ∈ e.relations, r.Canonical))

/-- All entries are canonical and no two entities have one name. -/
structure Outline.Canonical (o : Outline) : Prop where
  components : ∀ m ∈ o.components, m.Canonical
  entities : ∀ e ∈ o.entities, e.Canonical
  distinct : (o.entities.map EntityEntry.name).Nodup

/-! ## Facts

What the lines say, entry by entry. A row of a relation table says two things: the relation
and a field.
-/

def ComponentEntry.facts (m : ComponentEntry) : List Fact :=
  .component m.name :: m.targets.map fun target => .dependency ⟨m.name, target⟩

def RelationEntry.facts (entity : String) (r : RelationEntry) : List Fact :=
  [.tableRelation ⟨entity, r.target⟩, .field entity r.label]

def EntityEntry.facts (e : EntityEntry) : List Fact :=
  .entity e.name :: (e.fields.map (Fact.field e.name) ++
    e.relations.flatMap (RelationEntry.facts e.name))

def Outline.facts (o : Outline) : List Fact :=
  o.components.flatMap ComponentEntry.facts ++ o.entities.flatMap EntityEntry.facts

/-! ## Scanning -/

namespace State

/-- A canonical heading in a section of components makes its component current. -/
theorem step_componentHeading {s : State} {name : String} (hs : s.topic = .components)
    (hn : IsPlainName name) (hl : name.toList.length < longestName) :
    s.step .strict (.subHeading name.toList) =
      ⟨{ s with component := some name, inRelationTable := false }, [.component name]⟩ := by
  have hne : name.toList.isEmpty = false := List.isEmpty_eq_false_iff.mpr hn.1.1
  have hp : isPlausibleName name.toList = true := by
    rw [isPlausibleName, hne, Bool.not_false, Bool.true_and]
    exact decide_eq_true hl
  have hcomponent : s.componentHeading name.toList = (some name, [.component name]) := by
    rw [componentHeading, hs]
    simp [componentName_of_isPlainName hn, hp, hn.1.1]
  have hentity : s.entityHeading .strict name.toList = (s.entity, []) := by
    rw [entityHeading, collectsEntities, hs]
    rfl
  rw [step, subHeading, hcomponent, hentity]
  rfl

/-- A canonical heading in a section of entities makes its entity current. -/
theorem step_entityHeading {s : State} {name : String} (hs : s.topic = .entities)
    (hn : IsIdentifier name.toList) (hu : name.toList.head?.any isUppercase = true) :
    s.step .strict (.subHeading name.toList) =
      ⟨{ s with entity := some name, inRelationTable := false }, [.entity name]⟩ := by
  have hcomponent : s.componentHeading name.toList = (s.component, []) := by
    rw [componentHeading, hs]
  have hentity : s.entityHeading .strict name.toList = (some name, [.entity name]) := by
    have hc : s.collectsEntities .strict = true := by
      rw [collectsEntities, hs]
      rfl
    rw [entityHeading, if_pos hc, entityName?_of_isIdentifier hn hu]
    simp
  rw [step, subHeading, hcomponent, hentity]
  rfl

/-- A canonical item under a component gives its dependencies. -/
theorem facts_plainText_dependencyLine {s : State} {component : String} {targets : List String}
    (hs : s.topic = .components) (hc : s.component = some component) (hne : targets ≠ [])
    (h : ∀ target ∈ targets, IsPlainName target ∧ saysNone target.toList = false) :
    (s.plainText (dependencyLine targets)).facts =
      targets.map fun target => .dependency ⟨component, target⟩ := by
  rw [plainText, hs, hc]
  simp only [dependencyTargets_dependencyLine hne h]

section Rows

variable {s : State} {entity : String} (he : s.entity = some entity)
include he

theorem step_fieldRow {mode : Mode} {field : String} (ht : s.inRelationTable = false)
    (hf : IsFieldName field) :
    s.step mode (.tableRow (rowLine [field])) = ⟨s, [.field entity field]⟩ := by
  have hname : fieldName? (rowLine [field]) = some field :=
    fieldName?_rowLine hf.1 (by simp) hf.2
  rw [step, tableRow, he]
  simp only [ht, isRelationHeader_rowLine_singleton hf.1, Bool.false_eq_true, ↓reduceIte, fieldFacts,
    hname]
  rfl

theorem step_headerRow {mode : Mode} (ht : s.inRelationTable = false) :
    s.step mode (.tableRow (rowLine ["relation", "target"])) =
      ⟨{ s with inRelationTable := true }, []⟩ := by
  have hh : isRelationHeader (rowLine ["relation", "target"]) = true := by decide
  rw [step, tableRow, he]
  simp only [ht, hh, Bool.false_eq_true, ↓reduceIte]

theorem step_relationRow {mode : Mode} {r : RelationEntry} (ht : s.inRelationTable = true)
    (hr : r.Canonical) :
    s.step mode (.tableRow (rowLine [r.label, r.target])) = ⟨s, r.facts entity⟩ := by
  obtain ⟨hlabel, htarget, hne⟩ := hr
  have hfield : fieldName? (rowLine [r.label, r.target]) = some r.label :=
    fieldName?_rowLine hlabel.1 (by simpa using htarget) hlabel.2
  rw [step, tableRow, he]
  simp only [ht, ↓reduceIte, targetFacts, fieldFacts, hfield,
    tableTarget?_rowLine hlabel.1 htarget hne]
  rfl

end Rows

end State

/-- The lines of a component give its facts and leave the section open. -/
theorem ComponentEntry.Canonical.factsOf_lines {m : ComponentEntry} (h : m.Canonical) (s : State)
    (hs : s.topic = .components) :
    s.factsOf .strict (m.lines.map Line.classify) = m.facts ∧
      (s.after .strict (m.lines.map Line.classify)).topic = .components := by
  obtain ⟨hname, hlength, htargets⟩ := h
  have hstep := State.step_componentHeading hs hname hlength
  rw [ComponentEntry.lines, List.map_cons, classify_headingLine hname.1, State.factsOf_cons,
    State.after_cons, hstep, ComponentEntry.facts]
  by_cases hnone : m.targets = []
  · rw [if_pos hnone, hnone]
    exact ⟨rfl, hs⟩
  · have hfacts := State.facts_plainText_dependencyLine
      (s := { s with component := some m.name, inRelationTable := false }) hs rfl hnone htargets
    rw [if_neg hnone, List.map_singleton, classify_dependencyLine, State.factsOf_cons]
    constructor
    · change [Fact.component m.name] ++ ((State.plainText _ _).facts ++ []) = _
      rw [hfacts, List.append_nil]
      rfl
    · exact hs

theorem State.factsOf_fieldRows {s : State} {entity : String} {fields : List String}
    (he : s.entity = some entity) (ht : s.inRelationTable = false)
    (h : ∀ field ∈ fields, IsFieldName field) :
    s.factsOf .strict ((fields.map fun field => rowLine [field]).map Line.classify) =
        fields.map (Fact.field entity) ∧
      s.after .strict ((fields.map fun field => rowLine [field]).map Line.classify) = s := by
  have hfields : fields.map (Fact.field entity) = fields.flatMap fun field => [.field entity field] :=
    List.map_eq_flatMap
  rw [List.map_map, hfields]
  exact factsOf_map_of_unchanged fun field hm => step_fieldRow he ht (h field hm)

theorem State.factsOf_relationRows {s : State} {entity : String} {relations : List RelationEntry}
    (he : s.entity = some entity) (ht : s.inRelationTable = true)
    (h : ∀ r ∈ relations, r.Canonical) :
    s.factsOf .strict ((relations.map fun r => rowLine [r.label, r.target]).map Line.classify) =
        relations.flatMap (RelationEntry.facts entity) ∧
      s.after .strict ((relations.map fun r => rowLine [r.label, r.target]).map Line.classify) =
        s := by
  rw [List.map_map]
  exact factsOf_map_of_unchanged fun r hm => step_relationRow he ht (h r hm)

/-- The rows of an entity give its fields and relations and leave the section open. -/
theorem EntityEntry.Canonical.factsOf_rows {e : EntityEntry} (h : e.Canonical) {s : State}
    (he : s.entity = some e.name) (ht : s.inRelationTable = false) :
    s.factsOf .strict (e.rows.map Line.classify) =
        e.fields.map (Fact.field e.name) ++ e.relations.flatMap (RelationEntry.facts e.name) ∧
      (s.after .strict (e.rows.map Line.classify)).topic = s.topic := by
  obtain ⟨-, -, hfields, hrelations⟩ := h
  obtain ⟨hfieldFacts, hfieldAfter⟩ := State.factsOf_fieldRows he ht hfields
  rw [EntityEntry.rows, List.map_append, State.factsOf_append, State.after_append, hfieldFacts,
    hfieldAfter]
  by_cases hnone : e.relations = []
  · rw [if_pos hnone, hnone]
    exact ⟨rfl, rfl⟩
  -- the header gives no fact; it opens the table that the rows after it are read in
  · obtain ⟨hfacts, hafter⟩ := State.factsOf_relationRows
      (s := { s with inRelationTable := true }) he rfl hrelations
    rw [if_neg hnone, List.map_cons, classify_rowLine, State.factsOf_cons, State.after_cons,
      State.step_headerRow he ht, hfacts, hafter]
    exact ⟨rfl, rfl⟩

/-- The lines of an entity give its facts and leave the section open. -/
theorem EntityEntry.Canonical.factsOf_lines {e : EntityEntry} (h : e.Canonical) (s : State)
    (hs : s.topic = .entities) :
    s.factsOf .strict (e.lines.map Line.classify) = e.facts ∧
      (s.after .strict (e.lines.map Line.classify)).topic = .entities := by
  obtain ⟨hfacts, hafter⟩ := h.factsOf_rows
    (s := { s with entity := some e.name, inRelationTable := false }) rfl rfl
  rw [EntityEntry.lines, List.map_cons, classify_headingLine h.1, State.factsOf_cons,
    State.after_cons, State.step_entityHeading hs h.1 h.2.1, hfacts, hafter, EntityEntry.facts]
  exact ⟨rfl, hs⟩

theorem Outline.Canonical.factsOf_lines {o : Outline} (h : o.Canonical) :
    State.initial.factsOf .strict (o.lines.map Line.classify) = o.facts := by
  have hcomponents : ∀ s : State, s.topic = .components →
      s.factsOf .strict (o.components.flatMap fun m => m.lines.map Line.classify) =
        o.components.flatMap ComponentEntry.facts := fun s hs =>
    State.factsOf_flatMap (fun m hm s hs => (h.components m hm).factsOf_lines s hs) hs
  have hentities : ∀ s : State, s.topic = .entities →
      s.factsOf .strict (o.entities.flatMap fun e => e.lines.map Line.classify) =
        o.entities.flatMap EntityEntry.facts := fun s hs =>
    State.factsOf_flatMap (fun e he s hs => (h.entities e he).factsOf_lines s hs) hs
  have hc : Line.classify "## Components".toList = .sectionHeading "Components".toList := by decide
  have he : Line.classify "## Entities".toList = .sectionHeading "Entities".toList := by decide
  have hct : Topic.ofTitle "Components".toList = .components := by decide
  have het : Topic.ofTitle "Entities".toList = .entities := by decide
  rw [Outline.lines, List.map_append, List.map_cons, List.map_cons, hc, he, List.map_flatMap,
    List.map_flatMap, State.factsOf_append, State.factsOf_cons, State.factsOf_cons,
    hcomponents _ hct, hentities _ het]
  rfl

/-! ## Characters -/

/-- The characters of printed lines: those of names, spaces and the signs of the markup. -/
def isPrinted (c : Char) : Bool := isWord c || [' ', '#', '*', ',', '-', ':', '|'].contains c

theorem isPrinted_of_isWord {c : Char} (h : isWord c = true) : isPrinted c = true := by
  rw [isPrinted, h, Bool.true_or]

theorem isPrinted_headingLine {name : String} (h : IsIdentifier name.toList) :
    ∀ c ∈ headingLine name, isPrinted c = true := by
  have hmark : ∀ c ∈ "### ".toList, isPrinted c = true :=
    List.all_eq_true.mp (by decide)
  intro c hc
  rcases List.mem_append.mp hc with hc | hc
  · exact hmark c hc
  · exact isPrinted_of_isWord (h.2 c hc)

theorem isPrinted_rowLine {cells : List String} (h : ∀ cell ∈ cells, IsIdentifier cell.toList) :
    ∀ c ∈ rowLine cells, isPrinted c = true := by
  have hspace : isPrinted ' ' = true := by decide
  have hbar : isPrinted '|' = true := by decide
  intro c hc
  rcases List.mem_cons.mp hc with rfl | hc
  · exact hbar
  · obtain ⟨cell, hm, hc⟩ := List.mem_flatMap.mp hc
    simp only [padded, List.cons_append, List.append_assoc, List.mem_cons, List.mem_append,
      List.not_mem_nil, or_false, false_or] at hc
    rcases hc with rfl | hc | rfl | rfl
    · exact hspace
    · exact isPrinted_of_isWord ((h cell hm).2 c hc)
    · exact hspace
    · exact hbar

theorem isPrinted_dependencyLine {targets : List String}
    (h : ∀ target ∈ targets, IsIdentifier target.toList) :
    ∀ c ∈ dependencyLine targets, isPrinted c = true := by
  have hmark : ∀ c ∈ "- **dependency**: ".toList, isPrinted c = true :=
    List.all_eq_true.mp (by decide)
  have hcomma : isPrinted ',' = true := by decide
  have hspace : isPrinted ' ' = true := by decide
  intro c hc
  rcases List.mem_append.mp hc with hc | hc
  · exact hmark c hc
  · rcases mem_listed hc with rfl | rfl | ⟨target, hm, hc⟩
    · exact hcomma
    · exact hspace
    · exact isPrinted_of_isWord ((h target hm).2 c hc)

theorem ComponentEntry.Canonical.printed {m : ComponentEntry} (h : m.Canonical) :
    ∀ line ∈ m.lines, ∀ c ∈ line, isPrinted c = true := by
  obtain ⟨hname, -, htargets⟩ := h
  intro line hl
  rcases List.mem_cons.mp hl with rfl | hl
  · exact isPrinted_headingLine hname.1
  · by_cases hnone : m.targets = []
    · rw [if_pos hnone] at hl
      cases hl
    · rw [if_neg hnone, List.mem_singleton] at hl
      rw [hl]
      exact isPrinted_dependencyLine fun target hm => (htargets target hm).1.1

theorem EntityEntry.Canonical.printed {e : EntityEntry} (h : e.Canonical) :
    ∀ line ∈ e.lines, ∀ c ∈ line, isPrinted c = true := by
  obtain ⟨hname, -, hfields, hrelations⟩ := h
  have htitles : ∀ cell ∈ ["relation", "target"], IsIdentifier cell.toList := by decide
  intro line hl
  rcases List.mem_cons.mp hl with rfl | hl
  · exact isPrinted_headingLine hname
  rcases List.mem_append.mp hl with hl | hl
  · obtain ⟨field, hm, rfl⟩ := List.mem_map.mp hl
    exact isPrinted_rowLine (by simpa using (hfields field hm).1)
  by_cases hnone : e.relations = []
  · rw [if_pos hnone] at hl
    cases hl
  rw [if_neg hnone] at hl
  rcases List.mem_cons.mp hl with rfl | hl
  · exact isPrinted_rowLine htitles
  · obtain ⟨r, hm, rfl⟩ := List.mem_map.mp hl
    obtain ⟨hlabel, htarget, -⟩ := hrelations r hm
    exact isPrinted_rowLine (by simpa using ⟨hlabel.1, htarget⟩)

/-- A canonical outline prints no other characters. -/
theorem Outline.Canonical.printed {o : Outline} (h : o.Canonical) :
    ∀ line ∈ o.lines, ∀ c ∈ line, isPrinted c = true := by
  have hcomponents : ∀ c ∈ "## Components".toList, isPrinted c = true :=
    List.all_eq_true.mp (by decide)
  have hentities : ∀ c ∈ "## Entities".toList, isPrinted c = true :=
    List.all_eq_true.mp (by decide)
  intro line hl
  simp only [Outline.lines, List.mem_append, List.mem_cons, List.mem_flatMap] at hl
  rcases hl with (rfl | ⟨m, hm, hl⟩) | rfl | ⟨e, he, hl⟩
  · exact hcomponents
  · exact (h.components m hm).printed line hl
  · exact hentities
  · exact (h.entities e he).printed line hl

theorem Outline.Canonical.mem_text {o : Outline} (h : o.Canonical) {c : Char}
    (hc : c ∈ o.text.toList) : c = '\n' ∨ isPrinted c = true := by
  rw [Outline.text, String.toList_ofList] at hc
  rcases mem_ofLines hc with hc | ⟨line, hl, hc⟩
  · exact .inl hc
  · exact .inr (h.printed line hl c hc)

theorem Outline.Canonical.lines_text {o : Outline} (h : o.Canonical) :
    Text.lines o.text.toList = o.lines := by
  have hends : isPrinted '\n' = false ∧ isPrinted '\r' = false := by decide
  rw [Outline.text, String.toList_ofList, lines_ofLines]
  intro line hl
  constructor
  · exact fun hc => Bool.eq_false_iff.mp hends.1 (h.printed line hl _ hc)
  · exact fun hc => Bool.eq_false_iff.mp hends.2 (h.printed line hl _ hc)

/-- The facts of the text of a canonical outline are those of the outline. -/
theorem Outline.Canonical.facts_text {o : Outline} (h : o.Canonical) :
    Document.facts .strict o.text.toList = o.facts := by
  rw [facts_eq_factsOf, h.lines_text, h.factsOf_lines]

/-- No arrow stands in the text of a canonical outline. -/
theorem Outline.Canonical.arrowPairs_text {o : Outline} (h : o.Canonical) :
    arrowPairs o.text.toList = [] := by
  have hnone : ∀ c, isPrinted c = false → c ≠ '\n' → c ∉ o.text.toList := by
    intro c hp hn hc
    rcases h.mem_text hc with he | hm
    · exact hn he
    · rw [hp] at hm
      cases hm
  have hhead : isPrinted '→' = false := by decide +kernel
  have hhead' : isPrinted '>' = false := by decide
  exact arrowPairs_eq_nil (hnone '→' hhead (by decide)) (hnone '>' hhead' (by decide))

end DesignGraph.Document
