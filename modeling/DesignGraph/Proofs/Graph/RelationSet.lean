import DesignGraph.Graph.RelationSet
import DesignGraph.Proofs.Graph.FirstSeen

/-!
# What a set of relations holds after insertions

A set extended by a list holds its own relations first and then the new ones, each where
it first occurs. A merge of three lists holds the first occurrences in all of them.
-/
namespace DesignGraph.RelationSet

open FirstSeen (addNew)

theorem toList_extend (s : RelationSet) (rs : List Relation) :
    (s.extend rs).toList = rs.foldl addNew s.toList := by
  induction rs generalizing s with
  | nil => rfl
  | cons r rest ih => rw [extend_cons, ih, toList_insert, List.foldl_cons, addNew]

theorem toList_merge (dependencies tables arrows : List Relation) :
    (merge dependencies tables arrows).toList = (dependencies ++ tables ++ arrows).eraseDups := by
  rw [merge, ← extend_append, ← extend_append, toList_extend, toList_empty,
    FirstSeen.foldl_addNew_nil, List.append_assoc]

theorem mem_merge {r : Relation} {dependencies tables arrows : List Relation} :
    r ∈ merge dependencies tables arrows ↔ r ∈ dependencies ∨ r ∈ tables ∨ r ∈ arrows := by
  change r ∈ (merge dependencies tables arrows).toList ↔ _
  rw [toList_merge, List.mem_eraseDups, List.mem_append, List.mem_append, or_assoc]

end DesignGraph.RelationSet
