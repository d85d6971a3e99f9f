import DesignGraph.Proofs.Document.Run
import Mathlib.Data.List.Forall2

/-!
# A relaxed scan covers a strict one

The two modes keep different entities across sections, so their states agree on the
entity only while the strict state has one; it then also is in a section of entities,
which is what keeps the agreement through the next sub-heading. Under this relation every
line gives in relaxed mode what it gives in strict mode, and perhaps more about entities.
-/
namespace DesignGraph.Document

/-- A fact about a component: that there is one, or what it depends on. -/
def Fact.isOfComponent : Fact → Bool
  | .component _ => true
  | .dependency _ => true
  | _ => false

/-- The relaxed state agrees with the strict one, except where the strict one has no
entity. -/
structure Covers (strict relaxed : State) : Prop where
  topic : strict.topic = relaxed.topic
  component : strict.component = relaxed.component
  entity : ∀ name, strict.entity = some name →
    relaxed.entity = some name ∧ strict.inRelationTable = relaxed.inRelationTable
  inEntities : ∀ name, strict.entity = some name → strict.topic = .entities

/-- The relaxed step gives the facts of the strict one in their order, with the same facts
about components, and leaves a state that covers the strict one. -/
structure StepCovers (strict relaxed : Step) : Prop where
  state : Covers strict.state relaxed.state
  facts : strict.facts.Sublist relaxed.facts
  ofComponents : strict.facts.filter Fact.isOfComponent = relaxed.facts.filter Fact.isOfComponent

theorem covers_initial : Covers .initial .initial where
  topic := rfl
  component := rfl
  entity _ h := by cases h
  inEntities _ h := by cases h

namespace Covers

variable {s r : State}

theorem componentHeading_eq (h : Covers s r) (text : List Char) :
    s.componentHeading text = r.componentHeading text := by
  simp only [State.componentHeading, h.topic, h.component]

/-- Outside of a section of entities only the relaxed scan looks for one, and then the
strict state has none to lose. -/
theorem entityHeading_covers (h : Covers s r) (text : List Char) :
    (∀ name, (s.entityHeading .strict text).1 = some name →
      (r.entityHeading .relaxed text).1 = some name ∧ s.topic = .entities) ∧
    (s.entityHeading .strict text).2.Sublist (r.entityHeading .relaxed text).2 ∧
    (s.entityHeading .strict text).2.filter Fact.isOfComponent =
      (r.entityHeading .relaxed text).2.filter Fact.isOfComponent := by
  have hkeep : ∀ name, s.entity = some name → r.entity = some name ∧ s.topic = .entities :=
    fun name hn => ⟨(h.entity name hn).1, h.inEntities name hn⟩
  cases hn : entityName? text with
  | none =>
    simp only [State.entityHeading, hn, ite_self]
    exact ⟨hkeep, List.Sublist.refl _, trivial⟩
  | some name =>
    by_cases ht : s.topic = .entities
    · simp [State.entityHeading, State.collectsEntities, hn, ht]
    · have hs : s.entityHeading .strict text = (s.entity, []) := by
        simp [State.entityHeading, State.collectsEntities, ht]
      rw [hs]
      refine ⟨fun other ho => absurd (h.inEntities other ho) ht, List.nil_sublist _, ?_⟩
      simp [State.entityHeading, State.collectsEntities, hn, Fact.isOfComponent]

theorem filter_facts_tableRow (s : State) (row : List Char) :
    (s.tableRow row).facts.filter Fact.isOfComponent = [] := by
  rw [List.filter_eq_nil_iff]
  intro fact hm
  obtain ⟨entity, -, ⟨name, -, rfl⟩ | ⟨-, target, -, rfl⟩⟩ := State.mem_facts_tableRow hm
  all_goals exact Bool.false_ne_true

/-- A row gives the same under the same entity, and nothing in strict mode without one. -/
theorem facts_tableRow_sublist (h : Covers s r) (row : List Char) :
    (s.tableRow row).facts.Sublist (r.tableRow row).facts := by
  cases hs : s.entity with
  | none =>
    simp only [State.tableRow, hs]
    exact List.nil_sublist _
  | some name =>
    obtain ⟨hr, ht⟩ := h.entity name hs
    have heq : (s.tableRow row).facts = (r.tableRow row).facts := by
      simp only [State.tableRow, hs, hr, ht]
      split
      · rfl
      · split <;> rfl
    rw [heq]

/-- One line keeps the relation, whatever its shape. -/
theorem step_covers (h : Covers s r) (line : Line) :
    StepCovers (s.step .strict line) (r.step .relaxed line) := by
  cases line with
  | sectionHeading title =>
    refine ⟨⟨rfl, rfl, ?_, ?_⟩, List.Sublist.refl _, rfl⟩
    all_goals
      intro name hn
      cases hn
  | subHeading text =>
    obtain ⟨he, hf, hc⟩ := h.entityHeading_covers text
    simp only [State.step, State.subHeading, h.componentHeading_eq text]
    refine ⟨⟨h.topic, rfl, fun name hn => ⟨(he name hn).1, rfl⟩, fun name hn => (he name hn).2⟩,
      hf.append_left _, ?_⟩
    simp only [List.filter_append, hc]
  | tableRow row =>
    refine ⟨?_, h.facts_tableRow_sublist row, ?_⟩
    · simp only [State.step, State.state_tableRow]
      refine ⟨h.topic, h.component, fun name hn => ?_, h.inEntities⟩
      have hs : s.entity = some name := hn
      obtain ⟨hr, ht⟩ := h.entity name hs
      exact ⟨hr, by simp only [hs, hr, ht]⟩
    · simp only [State.step, filter_facts_tableRow]
  | plain text =>
    refine ⟨⟨h.topic, h.component, ?_, h.inEntities⟩, ?_, ?_⟩
    · exact fun name hn => ⟨(h.entity name hn).1, rfl⟩
    · simp only [State.step, State.plainText, h.topic, h.component]
      exact List.Sublist.refl _
    · simp only [State.step, State.plainText, h.topic, h.component]

theorem steps_cover (h : Covers s r) (lines : List Line) :
    List.Forall₂ StepCovers (s.steps .strict lines) (r.steps .relaxed lines) := by
  induction lines generalizing s r with
  | nil => exact .nil
  | cons line rest ih =>
    have hstep := h.step_covers line
    exact .cons hstep (ih hstep.state)

end Covers

theorem facts_of_steps_cover {a b : List Step} (h : List.Forall₂ StepCovers a b) :
    (a.flatMap Step.facts).Sublist (b.flatMap Step.facts) ∧
      (a.flatMap Step.facts).filter Fact.isOfComponent =
        (b.flatMap Step.facts).filter Fact.isOfComponent := by
  induction h with
  | nil => exact ⟨List.Sublist.refl _, rfl⟩
  | cons hstep _ ih =>
    simp only [List.flatMap_cons, List.filter_append]
    exact ⟨hstep.facts.append ih.1, by rw [hstep.ofComponents, ih.2]⟩

end DesignGraph.Document
