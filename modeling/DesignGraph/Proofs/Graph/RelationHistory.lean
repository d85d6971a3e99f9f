import DesignGraph.Proofs.Graph.RelationSet
import Mathlib.Data.List.Nodup

/-!
# Sets of relations through any history

A set of relations is changed one relation or one list of relations at a time. After any
such history it lists the relations that were inserted, each where it occurred first. The
set can keep a hash index beside its list and ask that index before it inserts: list and
index hold the same relations at every moment, so the answers are those of the list alone.
-/
namespace DesignGraph

instance : Hashable Relation := ⟨fun r => mixHash (hash r.source) (hash r.target)⟩

/-- A change of a set of relations. -/
inductive Insertion where
  | one (r : Relation)
  | all (rs : List Relation)
  deriving DecidableEq, Repr

/-- The relations that a change inserts, in order. -/
def Insertion.relations : Insertion → List Relation
  | .one r => [r]
  | .all rs => rs

def RelationSet.perform (s : RelationSet) : Insertion → RelationSet
  | .one r => s.insert r
  | .all rs => s.extend rs

/-- The set after a history of changes. -/
def RelationSet.after (s : RelationSet) (history : List Insertion) : RelationSet :=
  history.foldl perform s

/-- Relations in a list, and the same relations in a hash set that is asked before one is
inserted. Nothing but the operations keeps the two in step. -/
structure IndexedRelations where
  order : List Relation
  seen : Std.HashSet Relation

namespace IndexedRelations

def empty : IndexedRelations := ⟨[], ∅⟩

/-- Whether the relation is new, by the index, and the relations with it. -/
def insert (t : IndexedRelations) (r : Relation) : Bool × IndexedRelations :=
  if t.seen.contains r then (false, t) else (true, ⟨t.order ++ [r], t.seen.insert r⟩)

/-- Whether the list has the relation. -/
def contains (t : IndexedRelations) (source target : String) : Bool :=
  t.order.any fun r => r.source == source && r.target == target

def size (t : IndexedRelations) : Nat := t.order.length

def extend (t : IndexedRelations) (rs : List Relation) : IndexedRelations :=
  rs.foldl (fun t r => (t.insert r).2) t

def merge (dependencies tables arrows : List Relation) : IndexedRelations :=
  ((empty.extend dependencies).extend tables).extend arrows

def perform (t : IndexedRelations) : Insertion → IndexedRelations
  | .one r => (t.insert r).2
  | .all rs => t.extend rs

/-- The relations after a history of changes. -/
def after (t : IndexedRelations) (history : List Insertion) : IndexedRelations :=
  history.foldl perform t

/-- List and index both hold the relations of a set, the list in its order. -/
structure Represents (t : IndexedRelations) (s : RelationSet) : Prop where
  order : t.order = s.toList
  seen : ∀ r, r ∈ t.seen ↔ r ∈ s.toList

theorem represents_empty : Represents empty .empty where
  order := rfl
  seen r := by simp [empty]

theorem contains_iff (t : IndexedRelations) (r : Relation) :
    t.contains r.source r.target = true ↔ r ∈ t.order := by
  rw [contains, List.any_eq_true]
  constructor
  · rintro ⟨⟨source, target⟩, hm, heq⟩
    rw [Bool.and_eq_true, beq_iff_eq, beq_iff_eq] at heq
    obtain ⟨rfl, rfl⟩ := heq
    exact hm
  · intro hm
    exact ⟨r, hm, by simp⟩

namespace Represents

variable {t : IndexedRelations} {s : RelationSet} (h : Represents t s)
include h

/-- The index calls a relation new if and only if the list does not have it. -/
theorem insert_fst (r : Relation) :
    (t.insert r).1 = true ↔ t.contains r.source r.target = false := by
  have hseen : r ∈ t.seen ↔ t.contains r.source r.target = true := by
    rw [h.seen, contains_iff, h.order]
  rw [IndexedRelations.insert]
  by_cases hr : r ∈ t.seen
  · simp [Std.HashSet.contains_iff_mem.mpr hr, hseen.mp hr]
  · have hc : t.contains r.source r.target = false := by simpa using mt hseen.mpr hr
    simp [hr, hc]

/-- One relation is inserted into both. -/
theorem insert (r : Relation) : Represents (t.insert r).2 (s.insert r) := by
  by_cases hr : r ∈ s.toList
  · -- known to the list, so known to the index, and nothing changes
    have hseen : t.seen.contains r = true := Std.HashSet.contains_iff_mem.mpr ((h.seen r).mpr hr)
    have hset : (s.insert r).toList = s.toList := by rw [RelationSet.toList_insert, if_pos hr]
    rw [IndexedRelations.insert, if_pos hseen]
    exact ⟨h.order.trans hset.symm, fun a => by rw [h.seen, hset]⟩
  · have hseen : ¬ t.seen.contains r = true := fun hc =>
      hr ((h.seen r).mp (Std.HashSet.contains_iff_mem.mp hc))
    have hset : (s.insert r).toList = s.toList ++ [r] := by
      rw [RelationSet.toList_insert, if_neg hr]
    rw [IndexedRelations.insert, if_neg hseen]
    refine ⟨?_, ?_⟩
    · rw [hset, h.order]
    · intro a
      rw [hset, Std.HashSet.mem_insert, h.seen, List.mem_append, List.mem_singleton, beq_iff_eq,
        or_comm, eq_comm]

theorem extend (rs : List Relation) : Represents (t.extend rs) (s.extend rs) := by
  induction rs generalizing t s with
  | nil => exact h
  | cons r rest ih => exact ih (h.insert r)

theorem perform (change : Insertion) : Represents (t.perform change) (s.perform change) := by
  cases change with
  | one r => exact h.insert r
  | all rs => exact h.extend rs

theorem after (history : List Insertion) : Represents (t.after history) (s.after history) := by
  induction history generalizing t s with
  | nil => exact h
  | cons change rest ih => exact ih (h.perform change)

/-- Relations that are all there already are inserted without any effect. -/
theorem extend_of_forall_mem {rs : List Relation} (hrs : ∀ r ∈ rs, r ∈ t.order) :
    t.extend rs = t := by
  induction rs with
  | nil => rfl
  | cons r rest ih =>
    have hr : r ∈ t.seen := (h.seen r).mpr (h.order ▸ hrs r List.mem_cons_self)
    have hinsert : (t.insert r).2 = t := by
      rw [IndexedRelations.insert, if_pos (Std.HashSet.contains_iff_mem.mpr hr)]
    rw [IndexedRelations.extend, List.foldl_cons, hinsert]
    exact ih fun a ha => hrs a (List.mem_cons_of_mem r ha)

end Represents

theorem represents_merge (dependencies tables arrows : List Relation) :
    Represents (merge dependencies tables arrows) (.merge dependencies tables arrows) :=
  ((represents_empty.extend dependencies).extend tables).extend arrows

end IndexedRelations

namespace RelationSet

/-- A history inserts all its relations, however they are grouped into changes. -/
theorem after_eq_extend (s : RelationSet) (history : List Insertion) :
    s.after history = s.extend (history.flatMap Insertion.relations) := by
  induction history generalizing s with
  | nil => rfl
  | cons change rest ih =>
    have hchange : s.perform change = s.extend change.relations := by cases change <;> rfl
    rw [List.flatMap_cons, extend_append, ← hchange, ← ih]
    rfl

/-- From nothing, a history leaves the first occurrences of what it inserts. -/
theorem toList_after_empty (history : List Insertion) :
    (empty.after history).toList = (history.flatMap Insertion.relations).eraseDups := by
  rw [after_eq_extend, toList_extend, toList_empty, FirstSeen.foldl_addNew_nil]

theorem extend_of_forall_mem {s : RelationSet} {rs : List Relation}
    (h : ∀ r ∈ rs, r ∈ s.toList) : s.extend rs = s := by
  induction rs with
  | nil => rfl
  | cons r rest ih =>
    have hinsert : s.insert r = s := by
      rw [insert, containsThenInsert, dif_pos (h r List.mem_cons_self)]
    rw [extend_cons, hinsert]
    exact ih fun a ha => h a (List.mem_cons_of_mem r ha)

/-- Two sets of the same relations have the same size, whatever their orders. -/
theorem size_congr {s t : RelationSet} (h : ∀ r, r ∈ s ↔ r ∈ t) : s.size = t.size :=
  ((List.perm_ext_iff_of_nodup s.nodup t.nodup).mpr h).length_eq

/-- After a history, the list with an index and the plain list are both what the history
says. -/
structure Records (history : List Insertion) (t : IndexedRelations) (s : RelationSet) : Prop where
  order : t.order = s.toList
  nodup : t.order.Nodup
  /-- The index holds the relations of the list. -/
  seen : ∀ r, r ∈ t.seen ↔ r ∈ t.order
  /-- The list holds the first occurrence of each inserted relation. -/
  firsts : t.order = (history.flatMap Insertion.relations).eraseDups
  /-- Inserting says that a relation is new if and only if it was not contained. -/
  insert_iff : ∀ r, (t.insert r).1 = true ↔ t.contains r.source r.target = false
  containsThenInsert_fst : ∀ r, (s.containsThenInsert r).1 = s.contains r.source r.target
  /-- Its own relations are inserted again without any effect. -/
  extend_self : t.extend t.order = t ∧ s.extend s.toList = s

theorem records_after_empty (history : List Insertion) :
    Records history (IndexedRelations.empty.after history) (empty.after history) := by
  have h := IndexedRelations.represents_empty.after history
  constructor
  · exact h.order
  · rw [h.order]
    exact nodup _
  · intro r
    rw [h.seen, h.order]
  · rw [h.order, toList_after_empty]
  · exact h.insert_fst
  · intro r
    by_cases hr : r ∈ (empty.after history).toList
    · rw [containsThenInsert, dif_pos hr]
      exact (decide_eq_true hr).symm
    · rw [containsThenInsert, dif_neg hr]
      exact (decide_eq_false hr).symm
  · exact ⟨h.extend_of_forall_mem fun _ hr => hr, extend_of_forall_mem fun _ hr => hr⟩

/-- After any history of insertions into the empty set, list and index hold the same
relations, each in the list once and where it was first inserted. A merge of three lists
holds the first occurrences in all of them, so merges of the same relations, in whatever
order, grouping and number they come, have the same members and the same size. -/
theorem history_leaves_first_occurrences :
    (∀ history : List Insertion,
      Records history (IndexedRelations.empty.after history) (empty.after history)) ∧
    (∀ dependencies tables arrows : List Relation,
      (IndexedRelations.merge dependencies tables arrows).order =
        (merge dependencies tables arrows).toList ∧
      (merge dependencies tables arrows).toList = (dependencies ++ tables ++ arrows).eraseDups) ∧
    ∀ dependencies tables arrows dependencies' tables' arrows' : List Relation,
      (∀ r, r ∈ dependencies ++ tables ++ arrows ↔ r ∈ dependencies' ++ tables' ++ arrows') →
      (∀ r, r ∈ merge dependencies tables arrows ↔ r ∈ merge dependencies' tables' arrows') ∧
        (merge dependencies tables arrows).size = (merge dependencies' tables' arrows').size := by
  refine ⟨records_after_empty, ?_, ?_⟩
  · intro dependencies tables arrows
    exact ⟨(IndexedRelations.represents_merge ..).order, toList_merge ..⟩
  · intro dependencies tables arrows dependencies' tables' arrows' h
    have hmem : ∀ r, r ∈ merge dependencies tables arrows ↔
        r ∈ merge dependencies' tables' arrows' := by
      intro r
      have hr := h r
      simp only [List.mem_append, or_assoc] at hr
      rw [mem_merge, mem_merge, hr]
    exact ⟨hmem, size_congr hmem⟩

/-- Two merges of the same relations: the lists of one are those of the other in another
order, reversed and with repetitions. -/
theorem merge_reversed_repeated :
    (∀ r : Relation, r ∈ [⟨"a", "b"⟩, ⟨"c", "d"⟩] ++ [⟨"c", "d"⟩] ++ [⟨"a", "b"⟩, ⟨"g", "h"⟩] ↔
      r ∈ [⟨"g", "h"⟩, ⟨"a", "b"⟩, ⟨"g", "h"⟩] ++ [⟨"c", "d"⟩] ++ [⟨"c", "d"⟩, ⟨"a", "b"⟩]) ∧
    (∀ r, r ∈ merge [⟨"a", "b"⟩, ⟨"c", "d"⟩] [⟨"c", "d"⟩] [⟨"a", "b"⟩, ⟨"g", "h"⟩] ↔
      r ∈ merge [⟨"g", "h"⟩, ⟨"a", "b"⟩, ⟨"g", "h"⟩] [⟨"c", "d"⟩] [⟨"c", "d"⟩, ⟨"a", "b"⟩]) ∧
    (merge [⟨"a", "b"⟩, ⟨"c", "d"⟩] [⟨"c", "d"⟩] [⟨"a", "b"⟩, ⟨"g", "h"⟩]).toList =
      [⟨"a", "b"⟩, ⟨"c", "d"⟩, ⟨"g", "h"⟩] ∧
    (merge [⟨"g", "h"⟩, ⟨"a", "b"⟩, ⟨"g", "h"⟩] [⟨"c", "d"⟩] [⟨"c", "d"⟩, ⟨"a", "b"⟩]).size =
      3 := by
  have h : ∀ r : Relation,
      r ∈ [⟨"a", "b"⟩, ⟨"c", "d"⟩] ++ [⟨"c", "d"⟩] ++ [⟨"a", "b"⟩, ⟨"g", "h"⟩] ↔
      r ∈ [⟨"g", "h"⟩, ⟨"a", "b"⟩, ⟨"g", "h"⟩] ++ [⟨"c", "d"⟩] ++ [⟨"c", "d"⟩, ⟨"a", "b"⟩] := by
    intro r
    simp only [List.cons_append, List.nil_append, List.mem_cons, List.not_mem_nil, or_false]
    tauto
  obtain ⟨-, hmerge, hsame⟩ := history_leaves_first_occurrences
  obtain ⟨hmem, hsize⟩ := hsame _ _ _ _ _ _ h
  have hlist := (hmerge [⟨"a", "b"⟩, ⟨"c", "d"⟩] [⟨"c", "d"⟩] [⟨"a", "b"⟩, ⟨"g", "h"⟩]).2
  refine ⟨h, hmem, hlist, ?_⟩
  rw [← hsize, size, hlist]
  rfl

end RelationSet

end DesignGraph
