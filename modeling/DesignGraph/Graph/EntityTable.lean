/-!
# Entities and their fields

An entity is a named data object with a list of fields. A table keeps its entities in
the order of their first declaration. Declaring a name again empties its fields and
keeps its place; a field of an undeclared entity goes nowhere.
-/

namespace DesignGraph

/-- A named data object and its fields, in the order they were given. -/
structure Entity where
  name : String
  fields : List String
  deriving DecidableEq, Repr

/-- Entities in the order of first declaration, one for each name. -/
structure EntityTable where
  toList : List Entity
  distinct : (toList.map Entity.name).Nodup
  deriving DecidableEq, Repr

namespace EntityTable

def empty : EntityTable := ⟨[], List.nodup_nil⟩

instance : Inhabited EntityTable := ⟨empty⟩

def names (t : EntityTable) : List String := t.toList.map Entity.name

def size (t : EntityTable) : Nat := t.toList.length

def isEmpty (t : EntityTable) : Bool := t.toList.isEmpty

def contains (t : EntityTable) (name : String) : Bool := decide (name ∈ t.names)

/-- The fields of the entity with this name. -/
def fields? (t : EntityTable) (name : String) : Option (List String) :=
  (t.toList.find? fun e => e.name == name).map Entity.fields

/-- The entities with the fields of one of them changed. -/
def mapFields (name : String) (f : List String → List String) (entities : List Entity) :
    List Entity :=
  entities.map fun e => if e.name = name then { e with fields := f e.fields } else e

@[simp] theorem names_mapFields (name : String) (f : List String → List String)
    (entities : List Entity) :
    (mapFields name f entities).map Entity.name = entities.map Entity.name := by
  induction entities with
  | nil => rfl
  | cons e rest ih =>
    by_cases h : e.name = name
    · simp_all [mapFields]
    · simp_all [mapFields]

/-- The table with the fields of one entity changed. -/
def modify (t : EntityTable) (name : String) (f : List String → List String) : EntityTable :=
  ⟨mapFields name f t.toList, by rw [names_mapFields]; exact t.distinct⟩

theorem distinct_concat {entities : List Entity} {e : Entity}
    (hd : (entities.map Entity.name).Nodup) (hn : e.name ∉ entities.map Entity.name) :
    ((entities ++ [e]).map Entity.name).Nodup := by
  rw [List.map_append, List.nodup_append]
  refine ⟨hd, by simp, ?_⟩
  intro a ha b hb hab
  rw [List.map_singleton, List.mem_singleton] at hb
  exact hn (hb ▸ hab ▸ ha)

/-- The table with the name declared and without fields. -/
def declare (t : EntityTable) (name : String) : EntityTable :=
  if h : name ∈ t.toList.map Entity.name then t.modify name fun _ => []
  else ⟨t.toList ++ [⟨name, []⟩], distinct_concat t.distinct h⟩

/-- The table with one more field at the end of a declared entity's. -/
def pushField (t : EntityTable) (name field : String) : EntityTable :=
  t.modify name (· ++ [field])

@[simp] theorem toList_empty : empty.toList = [] := rfl

theorem names_pushField (t : EntityTable) (name field : String) :
    (t.pushField name field).names = t.names := by
  simp only [names, pushField, modify, names_mapFields]

theorem names_declare (t : EntityTable) (name : String) :
    (t.declare name).names = if name ∈ t.names then t.names else t.names ++ [name] := by
  unfold declare names
  split <;> rename_i h
  · simp only [modify, names_mapFields]
  · simp

end EntityTable

end DesignGraph
