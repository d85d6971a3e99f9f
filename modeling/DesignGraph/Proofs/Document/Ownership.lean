import DesignGraph.Proofs.Document.Run

/-!
# Facts and their owners

A field or a relation of a relation table belongs to an entity. In the facts of a scan it
belongs to the entity that was declared last before it, so none of them is lost for want
of a declaration. The invariant behind it: the entity that a state holds is the one that
the facts so far declared last, in strict mode as in relaxed mode.
-/
namespace DesignGraph.Document

namespace Fact

def entityName? : Fact → Option String
  | .entity name => some name
  | _ => none

def owner? : Fact → Option String
  | .field owner _ => some owner
  | .tableRelation relation => some relation.source
  | _ => none

theorem mem_filterMap_entityName? {name : String} {facts : List Fact} :
    name ∈ facts.filterMap entityName? ↔ .entity name ∈ facts := by
  rw [List.mem_filterMap]
  constructor
  · rintro ⟨fact, hf, hn⟩
    cases fact <;> simp_all [entityName?]
  · intro h
    exact ⟨_, h, rfl⟩

end Fact

/-- The entity declared last: by the facts, or else before them. -/
def lastDeclared (before : Option String) (facts : List Fact) : Option String :=
  (facts.filterMap Fact.entityName?).getLast?.or before

/-- Every fact with an owner belongs to the entity declared last before it. -/
def Owned : Option String → List Fact → Prop
  | _, [] => True
  | declared, fact :: rest =>
    (∀ owner, fact.owner? = some owner → declared = some owner) ∧
      Owned (lastDeclared declared [fact]) rest

@[simp] theorem lastDeclared_nil (before : Option String) : lastDeclared before [] = before := rfl

theorem lastDeclared_append (before : Option String) (xs ys : List Fact) :
    lastDeclared before (xs ++ ys) = lastDeclared (lastDeclared before xs) ys := by
  simp [lastDeclared, Option.or_assoc]

theorem owned_append (declared : Option String) (xs ys : List Fact) :
    Owned declared (xs ++ ys) ↔ Owned declared xs ∧ Owned (lastDeclared declared xs) ys := by
  induction xs generalizing declared with
  | nil => simp [Owned]
  | cons fact rest ih =>
    rw [List.cons_append, Owned, Owned, ih, ← lastDeclared_append, List.singleton_append, and_assoc]

/-- Facts that declare nothing keep the entity declared last, and are owned if they all
belong to it. -/
theorem owned_of_forall {declared : Option String} {facts : List Fact}
    (hn : ∀ fact ∈ facts, fact.entityName? = none)
    (ho : ∀ fact ∈ facts, ∀ owner, fact.owner? = some owner → declared = some owner) :
    Owned declared facts ∧ lastDeclared declared facts = declared := by
  induction facts with
  | nil => exact ⟨trivial, rfl⟩
  | cons fact rest ih =>
    obtain ⟨hrest, hlast⟩ := ih (fun f hf => hn f (List.mem_cons_of_mem _ hf))
      (fun f hf => ho f (List.mem_cons_of_mem _ hf))
    have hfact : lastDeclared declared [fact] = declared := by
      simp [lastDeclared, hn fact List.mem_cons_self]
    constructor
    · rw [Owned, hfact]
      exact ⟨ho fact List.mem_cons_self, hrest⟩
    · rw [← List.singleton_append, lastDeclared_append, hfact, hlast]

/-- A fact's owner was declared among the facts, or before them. -/
theorem Owned.declared_of_mem {declared : Option String} {facts : List Fact} {fact : Fact}
    {owner : String} (h : Owned declared facts) (hm : fact ∈ facts)
    (ho : fact.owner? = some owner) : declared = some owner ∨ .entity owner ∈ facts := by
  obtain ⟨before, rest, rfl⟩ := List.append_of_mem hm
  have hb := ((owned_append declared before (fact :: rest)).mp h).2.1 owner ho
  rw [lastDeclared, Option.or_eq_some_iff] at hb
  rcases hb with hb | ⟨-, hb⟩
  · refine .inr (List.mem_append_left _ ?_)
    exact Fact.mem_filterMap_entityName?.mp (List.mem_of_getLast? hb)
  · exact .inl hb

namespace State

/-- What a component heading contributes declares nothing and belongs to nothing. -/
theorem componentHeading_owned (s : State) (declared : Option String) (text : List Char) :
    Owned declared (s.componentHeading text).2 ∧
      lastDeclared declared (s.componentHeading text).2 = declared := by
  apply owned_of_forall
  · intro fact hf
    obtain ⟨-, -, rfl⟩ := mem_componentHeading hf
    rfl
  · intro fact hf owner ho
    obtain ⟨-, -, rfl⟩ := mem_componentHeading hf
    cases ho

theorem entityHeading_owned (s : State) (mode : Mode) (declared : Option String)
    (text : List Char) (hs : ∀ name, s.entity = some name → declared = some name) :
    Owned declared (s.entityHeading mode text).2 ∧
      ∀ name, (s.entityHeading mode text).1 = some name →
        lastDeclared declared (s.entityHeading mode text).2 = some name := by
  unfold entityHeading
  split
  · simp [Owned, Fact.owner?, lastDeclared, Fact.entityName?]
  · exact ⟨trivial, hs⟩

/-- One line keeps the invariant: the current entity, if any, is the one declared last. -/
theorem step_owned (mode : Mode) (s : State) (declared : Option String) (line : Line)
    (hs : ∀ name, s.entity = some name → declared = some name) :
    Owned declared (s.step mode line).facts ∧
      ∀ name, (s.step mode line).state.entity = some name →
        lastDeclared declared (s.step mode line).facts = some name := by
  cases line with
  | sectionHeading title =>
    refine ⟨trivial, fun name hn => hs name ?_⟩
    cases mode with
    | strict => cases hn
    | relaxed => exact hn
  | subHeading text =>
    obtain ⟨hc, hcl⟩ := s.componentHeading_owned declared text
    obtain ⟨he, hel⟩ := s.entityHeading_owned mode declared text hs
    simp only [step, subHeading]
    rw [owned_append, lastDeclared_append, hcl]
    exact ⟨⟨hc, he⟩, hel⟩
  | tableRow row =>
    have hf : ∀ fact ∈ (s.tableRow row).facts, fact.entityName? = none ∧
        ∀ owner, fact.owner? = some owner → declared = some owner := by
      intro fact hm
      obtain ⟨entity, he, ⟨name, -, rfl⟩ | ⟨-, target, -, rfl⟩⟩ := mem_facts_tableRow hm
      all_goals
        refine ⟨rfl, fun owner ho => ?_⟩
        cases ho
        exact hs entity he
    obtain ⟨ho, hl⟩ := owned_of_forall (fun fact hm => (hf fact hm).1) fun fact hm => (hf fact hm).2
    refine ⟨ho, fun name hn => ?_⟩
    simp only [step, state_tableRow] at hn ⊢
    rw [hl, hs name hn]
  | plain text =>
    have hf : ∀ fact ∈ (s.plainText text).facts, fact.entityName? = none ∧
        ∀ owner, fact.owner? = some owner → declared = some owner := by
      intro fact hm
      obtain ⟨-, component, -, target, -, rfl⟩ := mem_facts_plainText hm
      exact ⟨rfl, fun owner ho => by cases ho⟩
    obtain ⟨ho, hl⟩ := owned_of_forall (fun fact hm => (hf fact hm).1) fun fact hm => (hf fact hm).2
    exact ⟨ho, fun name hn => hl.trans (hs name hn)⟩

theorem factsOf_owned (mode : Mode) (s : State) (declared : Option String) (lines : List Line)
    (hs : ∀ name, s.entity = some name → declared = some name) :
    Owned declared (s.factsOf mode lines) := by
  induction lines generalizing s declared with
  | nil => trivial
  | cons line rest ih =>
    obtain ⟨ho, hn⟩ := s.step_owned mode declared line hs
    rw [factsOf_cons, owned_append]
    exact ⟨ho, ih _ _ hn⟩

end State

/-- In the facts of a text nothing belongs to an entity that is not declared before it. -/
theorem facts_owned (mode : Mode) (text : List Char) : Owned none (facts mode text) :=
  State.initial.factsOf_owned mode none _ fun _ h => by cases h

end DesignGraph.Document
