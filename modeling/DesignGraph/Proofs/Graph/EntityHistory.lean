import DesignGraph.Proofs.Graph.EntityTable

/-!
# Tables of entities through any history

A table of entities is changed by one declaration or one field at a time. After any such
history the table is told by the history: the names are those declared, in the order of
first declaration, and the fields of a name are those pushed to it since it was declared
last. A field that is pushed too early is lost for good, and a change for one name leaves
every other entity as it is and where it is.
-/
namespace DesignGraph

open Document (Fact)

/-- A change of a table of entities. -/
inductive EntityChange where
  | declare (name : String)
  | push (name field : String)
  deriving DecidableEq, Repr

namespace EntityChange

/-- The name that a change is made for. -/
def name : EntityChange → String
  | .declare name => name
  | .push name _ => name

def declared? : EntityChange → Option String
  | .declare name => some name
  | .push _ _ => none

/-- The field that a change pushes to this name. -/
def pushedTo? (name : String) : EntityChange → Option String
  | .declare _ => none
  | .push owner field => if owner = name then some field else none

/-- The fact of a document that changes a table alike. -/
def fact : EntityChange → Fact
  | .declare name => .entity name
  | .push name field => .field name field

theorem entityName?_comp_fact : Fact.entityName? ∘ fact = declared? := by
  funext change
  cases change <;> rfl

theorem fieldOf?_comp_fact (name : String) : Fact.fieldOf? name ∘ fact = pushedTo? name := by
  funext change
  cases change <;> rfl

theorem fact_eq_entity_iff {change : EntityChange} {name : String} :
    change.fact = .entity name ↔ change = .declare name := by
  cases change <;> simp [fact]

end EntityChange

namespace EntityTable

open EntityChange

def perform (t : EntityTable) : EntityChange → EntityTable
  | .declare name => t.declare name
  | .push name field => t.pushField name field

/-- The table after a history of changes. -/
def after (t : EntityTable) (history : List EntityChange) : EntityTable :=
  history.foldl perform t

theorem perform_eq_record (t : EntityTable) (change : EntityChange) :
    t.perform change = t.record change.fact := by
  cases change <;> rfl

theorem after_eq_foldl_record (t : EntityTable) (history : List EntityChange) :
    t.after history = (history.map fact).foldl record t := by
  rw [after, List.foldl_map]
  congr 1
  funext t change
  exact perform_eq_record t change

theorem after_append (t : EntityTable) (before later : List EntityChange) :
    t.after (before ++ later) = (t.after before).after later := by
  simp only [after, List.foldl_append]

/-! ## Names -/

/-- From nothing, a history leaves the names that it declares, each where it was declared
first. -/
theorem names_after_empty (history : List EntityChange) :
    (empty.after history).names = (history.filterMap declared?).eraseDups := by
  rw [after_eq_foldl_record, names_foldl_record, List.filterMap_map, entityName?_comp_fact]
  exact FirstSeen.foldl_addNew_nil _

theorem mem_names_after_empty {history : List EntityChange} {name : String} :
    name ∈ (empty.after history).names ↔ .declare name ∈ history := by
  rw [names_after_empty, List.mem_eraseDups, List.mem_filterMap]
  constructor
  · rintro ⟨change, hm, hdeclared⟩
    cases change with
    | declare other =>
      obtain rfl := Option.some.inj hdeclared
      exact hm
    | push owner field => cases hdeclared
  · intro hm
    exact ⟨.declare name, hm, rfl⟩

/-! ## Fields -/

/-- A name that is declared has no fields but those that are pushed to it from then on, as
long as it is not declared again. -/
theorem fields?_after_declare (t : EntityTable) {name : String} {later : List EntityChange}
    (h : .declare name ∉ later) :
    ((t.declare name).after later).fields? name = some (later.filterMap (pushedTo? name)) := by
  have hlater : .entity name ∉ later.map fact := by
    intro hm
    obtain ⟨change, hchange, hfact⟩ := List.mem_map.mp hm
    exact h (fact_eq_entity_iff.mp hfact ▸ hchange)
  have hsince : fieldsSince name (later.map fact) = later.filterMap (pushedTo? name) := by
    have hall : (later.map fact).rtakeWhile (· ≠ .entity name) = later.map fact := by
      rw [List.rtakeWhile_eq_self_iff]
      intro fact hfact
      exact decide_eq_true fun he => hlater (he ▸ hfact)
    rw [fieldsSince, hall, List.filterMap_map, fieldOf?_comp_fact]
  rw [after_eq_foldl_record, fields?_foldl_record, if_neg hlater, fields?_declare, if_pos rfl,
    Option.map_some, List.nil_append, hsince]

/-- A field that is pushed to a name which is not there goes nowhere. -/
theorem pushField_of_not_mem {t : EntityTable} {name : String} (h : name ∉ t.names)
    (field : String) : t.pushField name field = t := by
  have hlist : (t.pushField name field).toList = t.toList :=
    mapFields_of_not_mem (· ++ [field]) h
  cases ht : t.pushField name field
  cases t
  rw [ht] at hlist
  congr

/-! ## Other entities -/

theorem getElem?_modify (t : EntityTable) {name : String} (f : List String → List String)
    (i : Nat) {e : Entity} (h : e.name ≠ name) :
    (t.modify name f).toList[i]? = some e ↔ t.toList[i]? = some e := by
  show (mapFields name f t.toList)[i]? = some e ↔ _
  rw [mapFields, List.getElem?_map, Option.map_eq_some_iff]
  constructor
  · rintro ⟨d, hd, he⟩
    by_cases hname : d.name = name
    · rw [if_pos hname] at he
      exact absurd (he ▸ hname) h
    · rw [if_neg hname] at he
      exact he ▸ hd
  · intro he
    exact ⟨e, he, if_neg h⟩

theorem getElem?_declare (t : EntityTable) {name : String} (i : Nat) {e : Entity}
    (h : e.name ≠ name) : (t.declare name).toList[i]? = some e ↔ t.toList[i]? = some e := by
  by_cases hn : name ∈ t.names
  · have hold : t.declare name = t.modify name fun _ => [] := dif_pos hn
    rw [hold]
    exact getElem?_modify t _ i h
  · rw [toList_declare_of_not_mem hn, List.getElem?_append]
    split
    · rfl
    · -- after the old entities there is only the new one, and `e` has another name
      rename_i hi
      constructor
      · intro he
        have hnew := List.mem_singleton.mp (List.mem_of_getElem? he)
        exact absurd (congrArg Entity.name hnew) h
      · intro he
        rw [List.getElem?_eq_none (by omega)] at he
        cases he

/-- A change leaves the entities of other names as they are and where they are. -/
theorem getElem?_perform (t : EntityTable) {change : EntityChange} (i : Nat) {e : Entity}
    (h : e.name ≠ change.name) :
    (t.perform change).toList[i]? = some e ↔ t.toList[i]? = some e := by
  cases change with
  | declare name => exact getElem?_declare t i h
  | push name field => exact getElem?_modify t (· ++ [field]) i h

/-! ## The whole history -/

/-- The table is what the history says. -/
structure Reflects (t : EntityTable) (history : List EntityChange) : Prop where
  nodup : t.names.Nodup
  names : t.names = (history.filterMap declared?).eraseDups
  contains_iff : ∀ name, t.contains name = true ↔ .declare name ∈ history
  isSome_iff : ∀ name, (t.fields? name).isSome = true ↔ .declare name ∈ history
  /-- From its last declaration on, a name takes all that is pushed to it. -/
  fields : ∀ before name later, history = before ++ .declare name :: later →
    .declare name ∉ later → t.fields? name = some (later.filterMap (pushedTo? name))

theorem reflects_after_empty (history : List EntityChange) :
    (empty.after history).Reflects history := by
  constructor
  · rw [names_after_empty]
    exact FirstSeen.nodup_eraseDups _
  · exact names_after_empty history
  · intro name
    rw [contains, decide_eq_true_eq, mem_names_after_empty]
  · intro name
    rw [← mem_names_after_empty, Option.isSome_iff_ne_none, ne_eq, fields?_eq_none, not_not]
  · rintro before name later rfl hlater
    rw [after_append]
    exact fields?_after_declare _ hlater

/-- After any history the table from which it began empty is what the history says. A field
pushed to a name before its first declaration makes no difference to anything that comes
later, and a change for one name neither changes nor moves the entity of another. -/
theorem history_leaves_declared_entities :
    (∀ history, (empty.after history).Reflects history) ∧
    (∀ (before later : List EntityChange) (name field : String), .declare name ∉ before →
      empty.after (before ++ .push name field :: later) = empty.after (before ++ later)) ∧
    ∀ (history : List EntityChange) (change : EntityChange) (i : Nat) (e : Entity),
      e.name ≠ change.name →
      ((empty.after (history ++ [change])).toList[i]? = some e ↔
        (empty.after history).toList[i]? = some e) := by
  refine ⟨reflects_after_empty, ?_, ?_⟩
  · intro before later name field h
    have hpush : (empty.after before).perform (.push name field) = empty.after before :=
      pushField_of_not_mem (mt mem_names_after_empty.mp h) field
    rw [after_append, after_append]
    show ((empty.after before).perform (.push name field)).after later = _
    rw [hpush]
  · intro history change i e h
    rw [after_append]
    exact getElem?_perform _ i h

/-- What happens after a user is declared: an order gets a field too early, and the user is
declared again. -/
def latterChanges : List EntityChange :=
  [.declare "Order", .push "User" "id", .declare "User", .push "User" "email",
    .push "Order" "total", .push "User" "email"]

theorem history_leaves_declared_entities_latterChanges :
    .declare "Order" ∉ [EntityChange.declare "User"] ∧
    empty.after ([.declare "User"] ++ .push "Order" "early" :: latterChanges) =
      empty.after ([.declare "User"] ++ latterChanges) ∧
    (empty.after ([.declare "User"] ++ latterChanges)).fields? "User" = some ["email", "email"] ∧
    "User" ≠ (EntityChange.declare "Order").name ∧
    (empty.after ([.declare "User"] ++ latterChanges ++ [.declare "Order"])).toList[0]? =
      some ⟨"User", ["email", "email"]⟩ := by
  obtain ⟨hreflects, hearly, hother⟩ := history_leaves_declared_entities
  have hnot : .declare "Order" ∉ [EntityChange.declare "User"] := by decide
  have hname : "User" ≠ (EntityChange.declare "Order").name := by decide
  refine ⟨hnot, hearly _ latterChanges _ "early" hnot, ?_, hname, ?_⟩
  · exact (hreflects _).fields
      [.declare "User", .declare "Order", .push "User" "id"] "User"
      [.push "User" "email", .push "Order" "total", .push "User" "email"] rfl (by decide)
  · exact (hother _ _ 0 ⟨"User", ["email", "email"]⟩ hname).mpr (by decide +kernel)

end EntityTable

end DesignGraph
