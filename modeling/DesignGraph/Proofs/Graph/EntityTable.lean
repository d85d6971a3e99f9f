import DesignGraph.Graph.Extract
import DesignGraph.Proofs.Document.Ownership
import DesignGraph.Proofs.Graph.FirstSeen
import Mathlib.Data.List.DropRight

/-!
# What a table of entities holds after a list of facts

The names are those that the facts declare, each where it first occurs. The fields of a
name are those given to it after its last declaration; what was given before is gone, and
what is given to a name that is not declared goes nowhere.
-/
namespace DesignGraph

namespace Document.Fact

/-- The field that a fact gives to this entity. -/
def fieldOf? (name : String) : Fact → Option String
  | .field owner given => if owner = name then some given else none
  | _ => none

theorem owner?_of_fieldOf? {name field : String} {fact : Fact}
    (h : fact.fieldOf? name = some field) : fact.owner? = some name := by
  cases fact with
  | field owner given =>
    by_cases ho : owner = name
    · rw [owner?, ho]
    · simp [fieldOf?, ho] at h
  | component _ => cases h
  | entity _ => cases h
  | dependency _ => cases h
  | tableRelation _ => cases h

end Document.Fact

open Document (Fact)
open FirstSeen (addNew)

namespace EntityTable

/-- The fields that the facts give to an entity after its last declaration; all of them
when it is not declared. -/
def fieldsSince (name : String) (facts : List Fact) : List String :=
  (facts.rtakeWhile (· ≠ .entity name)).filterMap (Fact.fieldOf? name)

theorem names_record (t : EntityTable) (fact : Fact) :
    (t.record fact).names = fact.entityName?.elim t.names (addNew t.names) := by
  cases fact with
  | entity name => exact names_declare t name
  | field entity name => exact names_pushField t entity name
  | component _ => rfl
  | dependency _ => rfl
  | tableRelation _ => rfl

theorem names_foldl_record (t : EntityTable) (facts : List Fact) :
    (facts.foldl record t).names = (facts.filterMap Fact.entityName?).foldl addNew t.names := by
  induction facts generalizing t with
  | nil => rfl
  | cons fact rest ih =>
    rw [List.foldl_cons, ih, names_record, List.filterMap_cons]
    cases fact.entityName? <;> rfl

theorem find?_mapFields (entity name : String) (f : List String → List String)
    (entities : List Entity) :
    (mapFields entity f entities).find? (fun e => e.name == name) =
      (entities.find? fun e => e.name == name).map fun e =>
        if e.name = entity then { e with fields := f e.fields } else e := by
  rw [mapFields, List.find?_map]
  congr 2
  funext e
  by_cases h : e.name = entity <;> simp [h]

theorem fields?_modify (t : EntityTable) (entity name : String) (f : List String → List String) :
    (t.modify entity f).fields? name =
      if entity = name then (t.fields? name).map f else t.fields? name := by
  rw [fields?, modify, find?_mapFields, fields?]
  cases h : t.toList.find? fun e => e.name == name with
  | none => simp
  | some e =>
    have hn : e.name = name := by simpa using List.find?_some h
    by_cases he : entity = name <;> simp [hn, he, eq_comm]

theorem fields?_eq_none (t : EntityTable) (name : String) :
    t.fields? name = none ↔ name ∉ t.names := by
  simp [fields?, names]

theorem fields?_declare (t : EntityTable) (entity name : String) :
    (t.declare entity).fields? name = if entity = name then some [] else t.fields? name := by
  by_cases h : entity ∈ t.toList.map Entity.name
  · rw [declare, dif_pos h, fields?_modify]
    by_cases he : entity = name
    · subst he
      cases hf : t.fields? entity with
      | none => exact absurd h ((fields?_eq_none t entity).mp hf)
      | some fields => rfl
    · rw [if_neg he, if_neg he]
  · rw [declare, dif_neg h, fields?, List.find?_append]
    by_cases he : entity = name
    · subst he
      have hf : t.toList.find? (fun e => e.name == entity) = none := by
        simpa using h
      simp [hf]
    · simp [fields?, he]

theorem fields?_pushField (t : EntityTable) (entity field name : String) :
    (t.pushField entity field).fields? name =
      if entity = name then (t.fields? name).map (· ++ [field]) else t.fields? name :=
  fields?_modify t entity name (· ++ [field])

/-- What one fact does to the fields of a name. -/
theorem fields?_record (t : EntityTable) (fact : Fact) (name : String) :
    (t.record fact).fields? name =
      if fact = .entity name then some []
      else (t.fields? name).map (· ++ (fact.fieldOf? name).toList) := by
  cases fact with
  | entity other => simp [record, fields?_declare, Fact.fieldOf?]
  | field owner field =>
    by_cases h : owner = name <;> simp [record, fields?_pushField, Fact.fieldOf?, h]
  | component _ => simp [record, Fact.fieldOf?]
  | dependency _ => simp [record, Fact.fieldOf?]
  | tableRelation _ => simp [record, Fact.fieldOf?]

theorem fieldsSince_concat (name : String) (facts : List Fact) (fact : Fact) :
    fieldsSince name (facts ++ [fact]) =
      if fact = .entity name then [] else fieldsSince name facts ++ (fact.fieldOf? name).toList := by
  rw [fieldsSince, List.rtakeWhile_concat]
  by_cases h : fact = .entity name
  · simp [h]
  · cases hf : fact.fieldOf? name <;> simp [h, hf, fieldsSince]

/-- The fields of a declared name are those given to it since its last declaration. -/
theorem fields?_foldl_record (t : EntityTable) (facts : List Fact) (name : String) :
    (facts.foldl record t).fields? name =
      if .entity name ∈ facts then some (fieldsSince name facts)
      else (t.fields? name).map (· ++ fieldsSince name facts) := by
  induction facts using List.reverseRecOn with
  | nil => simp [fieldsSince]
  | append_singleton facts fact ih =>
    rw [List.foldl_append, List.foldl_cons, List.foldl_nil, fields?_record, fieldsSince_concat, ih]
    by_cases h : fact = .entity name
    · simp [h]
    · by_cases hm : .entity name ∈ facts
      · simp [h, hm, eq_comm]
      · have hm' : .entity name ∉ facts ++ [fact] := by simp [hm, Ne.symm h]
        rw [if_neg h, if_neg hm, if_neg hm', if_neg h, Option.map_map]
        congr 1
        funext fields
        exact List.append_assoc _ _ _

/-! ## The entity declared last -/

theorem mapFields_of_not_mem {name : String} (f : List String → List String) {entities : List Entity}
    (h : name ∉ entities.map Entity.name) : mapFields name f entities = entities := by
  have hself : ∀ e ∈ entities, (if e.name = name then { e with fields := f e.fields } else e) = e := by
    intro e he
    have hn : e.name ≠ name := fun hn => h (List.mem_map.mpr ⟨e, he, hn⟩)
    exact if_neg hn
  rw [mapFields, List.map_congr_left hself, List.map_id']

/-- A fact that declares nothing and gives fields to the entity at the end alone. -/
theorem toList_record_last {t : EntityTable} {before : List Entity} {last : Entity} {fact : Fact}
    (ht : t.toList = before ++ [last]) (hd : fact.entityName? = none)
    (ho : ∀ owner, fact.owner? = some owner → owner = last.name) :
    (t.record fact).toList =
      before ++ [⟨last.name, last.fields ++ (fact.fieldOf? last.name).toList⟩] := by
  have hself : before ++ [⟨last.name, last.fields ++ []⟩] = t.toList := by
    rw [ht, List.append_nil]
  cases fact with
  | entity name => cases hd
  | field owner given =>
    obtain rfl := ho owner rfl
    have hbefore : last.name ∉ before.map Entity.name := by
      have hdistinct := t.distinct
      rw [ht, List.map_append, List.nodup_append] at hdistinct
      intro hm
      exact hdistinct.2.2 _ hm _ List.mem_cons_self rfl
    change mapFields last.name (· ++ [given]) t.toList = _
    rw [ht, mapFields, List.map_append]
    change mapFields last.name (· ++ [given]) before ++ _ = _
    rw [mapFields_of_not_mem _ hbefore]
    simp [Fact.fieldOf?]
  | component name => exact hself.symm
  | dependency r => exact hself.symm
  | tableRelation r => exact hself.symm

theorem toList_foldl_record_last {t : EntityTable} {before : List Entity} {last : Entity}
    {facts : List Fact} (ht : t.toList = before ++ [last])
    (hd : ∀ fact ∈ facts, fact.entityName? = none)
    (ho : ∀ fact ∈ facts, ∀ owner, fact.owner? = some owner → owner = last.name) :
    (facts.foldl record t).toList =
      before ++ [⟨last.name, last.fields ++ facts.filterMap (Fact.fieldOf? last.name)⟩] := by
  induction facts generalizing t last with
  | nil => simpa using ht
  | cons fact rest ih =>
    have hfirst := toList_record_last ht (hd fact List.mem_cons_self) (ho fact List.mem_cons_self)
    rw [List.foldl_cons, ih hfirst (fun f hf => hd f (List.mem_cons_of_mem fact hf))
      fun f hf => ho f (List.mem_cons_of_mem fact hf)]
    cases h : fact.fieldOf? last.name <;> simp [h]

theorem toList_declare_of_not_mem {t : EntityTable} {name : String} (h : name ∉ t.names) :
    (t.declare name).toList = t.toList ++ [⟨name, []⟩] := by
  have hn : name ∉ t.toList.map Entity.name := h
  rw [declare, dif_neg hn]

end EntityTable

end DesignGraph
