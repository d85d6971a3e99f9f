import DesignGraph.Proofs.Document.ArrowPairs
import DesignGraph.Proofs.Document.LineEnd
import DesignGraph.Proofs.Graph.Extract

/-!
# Appending to a document

What follows a document after a line feed may continue its last table, declare its entities
again or give a word to its last arrow. It takes nothing away: the graph of the whole starts
with the components and the entities of the document and has all its relations. Only the
fields of an entity may go, when it is declared again.
-/
namespace DesignGraph

open Document

/-- The first occurrences in a list come first in any longer list. -/
theorem FirstSeen.eraseDups_prefix_append {α : Type} [DecidableEq α] (as bs : List α) :
    as.eraseDups <+: (as ++ bs).eraseDups := by
  rw [eraseDups_append_eq_filter]
  exact List.prefix_append _ _

namespace Graph

/-- In either mode, a document that goes on after a line feed keeps its components and its
entities, in order and in front, and all its relations. -/
theorem extract_append_keeps (mode : Mode) (a b : String) :
    (extract mode a).components <+: (extract mode (a ++ "\n" ++ b)).components ∧
    (extract mode a).entities.names <+: (extract mode (a ++ "\n" ++ b)).entities.names ∧
    ∀ r ∈ (extract mode a).relations, r ∈ (extract mode (a ++ "\n" ++ b)).relations := by
  have hfacts := facts_append_newline mode a.toList b.toList
  have harrows := arrowPairsAfter_sublist_append_newline [] a.toList b.toList
  rw [← Text.toList_append_newline] at hfacts harrows
  refine ⟨?_, ?_, ?_⟩
  · rw [components_extract, components_extract, hfacts, List.filterMap_append]
    exact FirstSeen.eraseDups_prefix_append _ _
  · rw [names_extract, names_extract, hfacts, List.filterMap_append]
    exact FirstSeen.eraseDups_prefix_append _ _
  · intro r hr
    rw [mem_relations_extract] at hr ⊢
    rw [hfacts, List.mem_append, List.mem_append]
    rcases hr with hr | hr | hr
    · exact .inl (.inl hr)
    · exact .inr (.inl (.inl hr))
    · exact .inr (.inr (harrows.subset hr))

end Graph

end DesignGraph
