import DesignGraph.Proofs.Graph.EntityTable
import DesignGraph.Proofs.Graph.RelationSet

/-!
# What an extracted graph holds

Each part of the graph of a text in terms of the facts of its scan and its arrows, so that
what is proved of the facts carries over to the graph.
-/
namespace DesignGraph

open Document

namespace Document.Fact

theorem mem_filterMap_dependency? {r : Relation} {facts : List Fact} :
    r ∈ facts.filterMap dependency? ↔ .dependency r ∈ facts := by
  rw [List.mem_filterMap]
  constructor
  · rintro ⟨fact, hf, hr⟩
    cases fact <;> simp_all [dependency?]
  · intro h
    exact ⟨_, h, rfl⟩

theorem mem_filterMap_tableRelation? {r : Relation} {facts : List Fact} :
    r ∈ facts.filterMap tableRelation? ↔ .tableRelation r ∈ facts := by
  rw [List.mem_filterMap]
  constructor
  · rintro ⟨fact, hf, hr⟩
    cases fact <;> simp_all [tableRelation?]
  · intro h
    exact ⟨_, h, rfl⟩

end Document.Fact

namespace Graph

variable {mode : Mode} {text : String}

theorem components_extract : (extract mode text).components =
    ((facts mode text.toList).filterMap Fact.componentName?).eraseDups := rfl

theorem names_extract : (extract mode text).entities.names =
    ((facts mode text.toList).filterMap Fact.entityName?).eraseDups := by
  change ((facts mode text.toList).foldl EntityTable.record .empty).names = _
  rw [EntityTable.names_foldl_record, EntityTable.names, EntityTable.toList_empty, List.map_nil,
    FirstSeen.foldl_addNew_nil]

/-- An entity of the graph is one that a fact declares. -/
theorem mem_names_extract {name : String} :
    name ∈ (extract mode text).entities.names ↔ .entity name ∈ facts mode text.toList := by
  rw [names_extract, List.mem_eraseDups, Fact.mem_filterMap_entityName?]

theorem isEntity_extract {name : String} :
    (extract mode text).isEntity name = true ↔ .entity name ∈ facts mode text.toList := by
  rw [isEntity, EntityTable.contains, decide_eq_true_iff, mem_names_extract]

/-- The fields of an entity are those given to it since it was last declared. -/
theorem fields?_extract {name : String} : (extract mode text).fields? name =
    if .entity name ∈ facts mode text.toList
    then some (EntityTable.fieldsSince name (facts mode text.toList)) else none := by
  change ((facts mode text.toList).foldl EntityTable.record .empty).fields? name = _
  rw [EntityTable.fields?_foldl_record]
  rfl

/-- A relation of the graph comes from a dependency item, a relation table or an arrow. -/
theorem mem_relations_extract {r : Relation} : r ∈ (extract mode text).relations ↔
    .dependency r ∈ facts mode text.toList ∨ .tableRelation r ∈ facts mode text.toList ∨
      r ∈ arrowPairs text.toList := by
  change r ∈ RelationSet.merge _ _ _ ↔ _
  rw [RelationSet.mem_merge, Fact.mem_filterMap_dependency?, Fact.mem_filterMap_tableRelation?]

end Graph

end DesignGraph
