/-!
# Relations and sets of them

A relation is a directed pair of names. A set keeps its relations in the order in which
they were first seen, each once; inserting a pair that is already there changes nothing.
-/

namespace DesignGraph

/-- A directed edge from one name to another. -/
structure Relation where
  source : String
  target : String
  deriving DecidableEq, Repr

/-- Relations in first-seen order, each at most once. -/
structure RelationSet where
  toList : List Relation
  nodup : toList.Nodup
  deriving DecidableEq, Repr

namespace RelationSet

def empty : RelationSet := ⟨[], List.nodup_nil⟩

instance : Inhabited RelationSet := ⟨empty⟩

instance : Membership Relation RelationSet := ⟨fun s r => r ∈ s.toList⟩

instance (r : Relation) (s : RelationSet) : Decidable (r ∈ s) :=
  inferInstanceAs (Decidable (r ∈ s.toList))

def contains (s : RelationSet) (source target : String) : Bool :=
  decide (⟨source, target⟩ ∈ s)

def size (s : RelationSet) : Nat := s.toList.length

def isEmpty (s : RelationSet) : Bool := s.toList.isEmpty

theorem nodup_concat {l : List Relation} {r : Relation} (hl : l.Nodup) (hr : r ∉ l) :
    (l ++ [r]).Nodup := by
  rw [List.nodup_append]
  refine ⟨hl, by simp, ?_⟩
  intro a ha b hb hab
  rw [List.mem_singleton] at hb
  exact hr (hb ▸ hab ▸ ha)

/-- Whether the relation was there before, and the set with it, at the end if it was not. -/
def containsThenInsert (s : RelationSet) (r : Relation) : Bool × RelationSet :=
  if h : r ∈ s.toList then (true, s)
  else (false, ⟨s.toList ++ [r], nodup_concat s.nodup h⟩)

def insert (s : RelationSet) (r : Relation) : RelationSet := (s.containsThenInsert r).2

/-- The set with all these relations inserted, one after the other. -/
def extend (s : RelationSet) (rs : List Relation) : RelationSet := rs.foldl insert s

/-- The relations of dependency lists, of relation tables and of arrows, in this order. -/
def merge (dependencies tables arrows : List Relation) : RelationSet :=
  ((empty.extend dependencies).extend tables).extend arrows

@[simp] theorem toList_empty : empty.toList = [] := rfl

theorem toList_insert (s : RelationSet) (r : Relation) :
    (s.insert r).toList = if r ∈ s.toList then s.toList else s.toList ++ [r] := by
  unfold insert containsThenInsert
  split <;> simp

@[simp] theorem extend_cons (s : RelationSet) (r : Relation) (rs : List Relation) :
    s.extend (r :: rs) = (s.insert r).extend rs := rfl

theorem extend_append (s : RelationSet) (rs ts : List Relation) :
    s.extend (rs ++ ts) = (s.extend rs).extend ts := by
  simp [extend, List.foldl_append]

end RelationSet

end DesignGraph
