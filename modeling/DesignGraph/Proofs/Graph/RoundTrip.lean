import DesignGraph.Proofs.Document.Outline
import DesignGraph.Proofs.Graph.Extract

/-!
# Canonical documents are read back

The graph that strict mode extracts from a printed outline is the graph of the outline:
its components, its entities with their fields, and its relations, the dependencies before
the rows of relation tables. Nothing is lost and nothing is added.
-/
namespace DesignGraph

open Document

namespace Document

/-- The relations of a component to its dependencies. -/
def ComponentEntry.dependencies (m : ComponentEntry) : List Relation :=
  m.targets.map fun target => ⟨m.name, target⟩

/-- The entity of an entry; the labels of its relations are fields too, after the others. -/
def EntityEntry.toEntity (e : EntityEntry) : Entity :=
  ⟨e.name, e.fields ++ e.relations.map RelationEntry.label⟩

/-- The relations of an entity to the targets in its relation table. -/
def EntityEntry.tableRelations (e : EntityEntry) : List Relation :=
  e.relations.map fun r => ⟨e.name, r.target⟩

/-- All relations of an outline, the dependencies first. -/
def Outline.relations (o : Outline) : List Relation :=
  o.components.flatMap ComponentEntry.dependencies ++ o.entities.flatMap EntityEntry.tableRelations

/-! ## What the facts of an outline add -/

namespace ComponentEntry

theorem filterMap_facts {α : Type} (m : ComponentEntry) (f : Fact → Option α) :
    m.facts.filterMap f =
      (f (.component m.name)).toList ++ m.dependencies.filterMap fun r => f (.dependency r) := by
  rw [facts, dependencies, List.filterMap_cons, List.filterMap_map, List.filterMap_map]
  cases f (.component m.name) <;> rfl

theorem filterMap_componentName? (m : ComponentEntry) :
    m.facts.filterMap Fact.componentName? = [m.name] := by
  rw [filterMap_facts]
  simp [Fact.componentName?]

theorem filterMap_dependency? (m : ComponentEntry) :
    m.facts.filterMap Fact.dependency? = m.dependencies := by
  rw [filterMap_facts]
  simp [Fact.dependency?]

theorem filterMap_tableRelation? (m : ComponentEntry) :
    m.facts.filterMap Fact.tableRelation? = [] := by
  rw [filterMap_facts]
  simp [Fact.tableRelation?]

/-- The facts of a component do not touch the table of entities. -/
theorem foldl_record_facts (m : ComponentEntry) (t : EntityTable) :
    m.facts.foldl EntityTable.record t = t := by
  have htargets : ∀ targets : List String,
      (targets.map fun target => Fact.dependency ⟨m.name, target⟩).foldl EntityTable.record t = t := by
    intro targets
    induction targets with
    | nil => rfl
    | cons target rest ih => exact ih
  exact htargets m.targets

end ComponentEntry

namespace EntityEntry

/-- A reading of the facts that passes over entities and fields sees the relations alone. -/
theorem filterMap_facts {α : Type} (e : EntityEntry) {f : Fact → Option α}
    (hentity : f (.entity e.name) = none) (hfield : ∀ field, f (.field e.name field) = none) :
    e.facts.filterMap f = e.tableRelations.filterMap fun r => f (.tableRelation r) := by
  have hfields : (e.fields.map (Fact.field e.name)).filterMap f = [] := by
    simp [List.filterMap_map, hfield]
  have hrelations : ∀ relations : List RelationEntry,
      (relations.flatMap (RelationEntry.facts e.name)).filterMap f =
        (relations.map fun r => Relation.mk e.name r.target).filterMap fun r =>
          f (.tableRelation r) := by
    intro relations
    induction relations with
    | nil => rfl
    | cons r rest ih =>
      rw [List.flatMap_cons, List.filterMap_append, ih, List.map_cons, List.filterMap_cons,
        RelationEntry.facts, List.filterMap_cons, List.filterMap_cons_none (hfield r.label)]
      cases f (.tableRelation ⟨e.name, r.target⟩) <;> rfl
  rw [facts, List.filterMap_cons_none hentity, List.filterMap_append, hfields, hrelations]
  rfl

theorem filterMap_componentName? (e : EntityEntry) :
    e.facts.filterMap Fact.componentName? = [] := by
  rw [e.filterMap_facts rfl fun _ => rfl]
  simp [Fact.componentName?]

theorem filterMap_dependency? (e : EntityEntry) : e.facts.filterMap Fact.dependency? = [] := by
  rw [e.filterMap_facts rfl fun _ => rfl]
  simp [Fact.dependency?]

theorem filterMap_tableRelation? (e : EntityEntry) :
    e.facts.filterMap Fact.tableRelation? = e.tableRelations := by
  rw [e.filterMap_facts rfl fun _ => rfl]
  simp [Fact.tableRelation?]

/-- What the lines under the heading of an entity say is all about that entity. -/
theorem fields_facts (e : EntityEntry) :
    (e.fields.map (Fact.field e.name) ++
        e.relations.flatMap (RelationEntry.facts e.name)).filterMap (Fact.fieldOf? e.name) =
      e.toEntity.fields := by
  have hfields : ∀ field, Fact.fieldOf? e.name (.field e.name field) = some field := fun _ => if_pos rfl
  have hlabels : ∀ r : RelationEntry,
      (RelationEntry.facts e.name r).filterMap (Fact.fieldOf? e.name) = [r.label] := by
    intro r
    rw [RelationEntry.facts, List.filterMap_cons_none rfl, List.filterMap_cons_some (hfields _)]
    rfl
  rw [List.filterMap_append, List.filterMap_map, List.filterMap_flatMap, toEntity]
  simp only [hlabels, ← List.map_eq_flatMap, Function.comp_def, hfields, List.filterMap_some]

/-- The facts of an entity that is not in a table put it at the end. -/
theorem toList_foldl_record_facts {e : EntityEntry} {t : EntityTable} (h : e.name ∉ t.names) :
    (e.facts.foldl EntityTable.record t).toList = t.toList ++ [e.toEntity] := by
  have hbody : ∀ fact ∈ e.fields.map (Fact.field e.name) ++
      e.relations.flatMap (RelationEntry.facts e.name),
      fact.entityName? = none ∧ ∀ owner, fact.owner? = some owner → owner = e.name := by
    intro fact hm
    rcases List.mem_append.mp hm with hm | hm
    · obtain ⟨field, -, rfl⟩ := List.mem_map.mp hm
      exact ⟨rfl, fun owner ho => (Option.some.inj ho).symm⟩
    · obtain ⟨r, -, hm⟩ := List.mem_flatMap.mp hm
      rw [RelationEntry.facts, List.mem_pair] at hm
      rcases hm with rfl | rfl
      · exact ⟨rfl, fun owner ho => (Option.some.inj ho).symm⟩
      · exact ⟨rfl, fun owner ho => (Option.some.inj ho).symm⟩
  rw [facts, List.foldl_cons]
  change (List.foldl EntityTable.record (t.declare e.name) _).toList = _
  rw [EntityTable.toList_foldl_record_last (EntityTable.toList_declare_of_not_mem h)
    (fun fact hm => (hbody fact hm).1) fun fact hm => (hbody fact hm).2, fields_facts]
  rfl

end EntityEntry

/-- Entities with names of their own come into a table in order. -/
theorem toList_foldl_record_entities {entities : List EntityEntry} {t : EntityTable}
    (h : (t.names ++ entities.map EntityEntry.name).Nodup) :
    ((entities.flatMap EntityEntry.facts).foldl EntityTable.record t).toList =
      t.toList ++ entities.map EntityEntry.toEntity := by
  -- from the front: the table that the rest comes into already ends in the first entity
  induction entities generalizing t with
  | nil => simp
  | cons e rest ih =>
    have hnew : e.name ∉ t.names := by
      intro hm
      exact (List.nodup_append.mp h).2.2 _ hm _ List.mem_cons_self rfl
    have hlist := EntityEntry.toList_foldl_record_facts hnew
    have hnames : (e.facts.foldl EntityTable.record t).names = t.names ++ [e.name] := by
      rw [EntityTable.names, hlist, List.map_append]
      rfl
    have hrest : ((e.facts.foldl EntityTable.record t).names ++ rest.map EntityEntry.name).Nodup := by
      rw [hnames, List.append_assoc]
      exact h
    rw [List.flatMap_cons, List.foldl_append, ih hrest, hlist, List.append_assoc]
    rfl

theorem foldl_record_components (components : List ComponentEntry) (t : EntityTable) :
    (components.flatMap ComponentEntry.facts).foldl EntityTable.record t = t := by
  induction components with
  | nil => rfl
  | cons m rest ih => rw [List.flatMap_cons, List.foldl_append, m.foldl_record_facts, ih]

namespace Outline

theorem filterMap_componentName? (o : Outline) :
    o.facts.filterMap Fact.componentName? = o.components.map ComponentEntry.name := by
  rw [facts, List.filterMap_append, List.filterMap_flatMap, List.filterMap_flatMap]
  simp only [ComponentEntry.filterMap_componentName?, EntityEntry.filterMap_componentName?,
    ← List.map_eq_flatMap]
  simp

theorem filterMap_dependency? (o : Outline) :
    o.facts.filterMap Fact.dependency? = o.components.flatMap ComponentEntry.dependencies := by
  rw [facts, List.filterMap_append, List.filterMap_flatMap, List.filterMap_flatMap]
  simp only [ComponentEntry.filterMap_dependency?, EntityEntry.filterMap_dependency?]
  simp

theorem filterMap_tableRelation? (o : Outline) :
    o.facts.filterMap Fact.tableRelation? = o.entities.flatMap EntityEntry.tableRelations := by
  rw [facts, List.filterMap_append, List.filterMap_flatMap, List.filterMap_flatMap]
  simp only [ComponentEntry.filterMap_tableRelation?, EntityEntry.filterMap_tableRelation?]
  simp

/-- The table of entities of an outline holds its entities, and the components leave no
trace in it. -/
theorem toList_foldl_record (o : Outline) (h : (o.entities.map EntityEntry.name).Nodup) :
    (o.facts.foldl EntityTable.record .empty).toList = o.entities.map EntityEntry.toEntity := by
  have hdistinct : (EntityTable.empty.names ++ o.entities.map EntityEntry.name).Nodup := h
  rw [facts, List.foldl_append, foldl_record_components, toList_foldl_record_entities hdistinct]
  rfl

end Outline

end Document

namespace Graph

/-- Strict mode reads the outline back from its text. -/
theorem extract_text_of_canonical (o : Outline) (h : o.Canonical) :
    (extract .strict o.text).components = (o.components.map ComponentEntry.name).eraseDups ∧
      (extract .strict o.text).entities.toList = o.entities.map EntityEntry.toEntity ∧
      (extract .strict o.text).relations.toList = o.relations.eraseDups := by
  refine ⟨?_, ?_, ?_⟩
  · rw [components_extract, h.facts_text, o.filterMap_componentName?]
  · change ((facts .strict o.text.toList).foldl EntityTable.record .empty).toList = _
    rw [h.facts_text, o.toList_foldl_record h.distinct]
  · change (RelationSet.merge _ _ _).toList = _
    rw [RelationSet.toList_merge, h.arrowPairs_text, h.facts_text, o.filterMap_dependency?,
      o.filterMap_tableRelation?, List.append_nil]
    rfl

/-- An outline that names a component twice, repeats fields and relations, and has names that
are header words but for their case. -/
def shopOutline : Outline where
  components := [⟨"주문", ["Billing", "결제_1"]⟩, ⟨"Billing", []⟩, ⟨"주문", ["Billing", "target"]⟩]
  entities := [
    ⟨"Order", ["id", "name", "id"], [⟨"relation", "주문"⟩, ⟨"uses", "target"⟩, ⟨"uses", "주문"⟩]⟩,
    ⟨"Éclair", [], [⟨"field", "Order"⟩]⟩,
    ⟨"Value", ["_"], []⟩]

theorem extract_text_shopOutline : shopOutline.Canonical ∧
    (extract .strict shopOutline.text).components = ["주문", "Billing"] ∧
    (extract .strict shopOutline.text).entities.toList =
      [⟨"Order", ["id", "name", "id", "relation", "uses", "uses"]⟩, ⟨"Éclair", ["field"]⟩,
        ⟨"Value", ["_"]⟩] ∧
    (extract .strict shopOutline.text).relations.toList =
      [⟨"주문", "Billing"⟩, ⟨"주문", "결제_1"⟩, ⟨"주문", "target"⟩, ⟨"Order", "주문"⟩,
        ⟨"Order", "target"⟩, ⟨"Éclair", "Order"⟩] := by
  have h : shopOutline.Canonical :=
    ⟨by decide +kernel, by decide +kernel, by decide +kernel⟩
  obtain ⟨hcomponents, hentities, hrelations⟩ := extract_text_of_canonical shopOutline h
  refine ⟨h, ?_, ?_, ?_⟩
  · rw [hcomponents]
    decide +kernel
  · rw [hentities]
    decide +kernel
  · rw [hrelations]
    decide +kernel

end Graph

end DesignGraph
