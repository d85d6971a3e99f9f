import DesignGraph.Proofs.Document.Simulation
import DesignGraph.Proofs.Graph.Extract

/-!
# Strict and relaxed graphs of one document

Relaxed mode finds all that strict mode finds: line by line the relaxed scan covers the
strict one, and of the two graphs of a text the relaxed one has the same components and at
least the entities and relations of the strict one.
-/
namespace DesignGraph

open Document

namespace Graph

theorem filterMap_componentName?_filter (facts : List Fact) :
    (facts.filter Fact.isOfComponent).filterMap Fact.componentName? =
      facts.filterMap Fact.componentName? := by
  rw [List.filterMap_filter]
  congr 1
  funext fact
  cases fact <;> rfl

/-- Line by line, for any lines, the relaxed scan covers the strict one; so the graphs of
a text have the same components, and every entity and relation of the strict graph is one
of the relaxed graph. -/
theorem relaxed_extends_strict :
    (∀ lines : List Line, List.Forall₂ StepCovers
      (State.initial.steps .strict lines) (State.initial.steps .relaxed lines)) ∧
    ∀ text : String,
      (extract .strict text).components = (extract .relaxed text).components ∧
      (∀ name ∈ (extract .strict text).entities.names,
        name ∈ (extract .relaxed text).entities.names) ∧
      ∀ r ∈ (extract .strict text).relations, r ∈ (extract .relaxed text).relations := by
  refine ⟨covers_initial.steps_cover, fun text => ?_⟩
  obtain ⟨hsub, hcomp⟩ := facts_of_steps_cover
    (covers_initial.steps_cover ((Text.lines text.toList).map Line.classify))
  refine ⟨?_, ?_, ?_⟩
  · rw [components_extract, components_extract, ← filterMap_componentName?_filter, facts, scan,
      hcomp, filterMap_componentName?_filter]
    rfl
  · intro name hn
    exact mem_names_extract.mpr (hsub.subset (mem_names_extract.mp hn))
  · intro r hr
    rw [mem_relations_extract] at hr ⊢
    exact hr.imp (hsub.subset ·) (Or.imp_left (hsub.subset ·))

end Graph

end DesignGraph
