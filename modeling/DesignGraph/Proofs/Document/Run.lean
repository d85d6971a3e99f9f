import DesignGraph.Document.Scan

/-!
# Runs of the scan

The state after a list of lines, and the facts that the list contributes from a given
state. Both split at any line, so what holds along a scan is proved one line at a time.
-/
namespace DesignGraph.Document

namespace State

/-- A row changes nothing but that a header under an entity opens a relation table. -/
theorem state_tableRow (s : State) (row : List Char) :
    (s.tableRow row).state =
      { s with inRelationTable :=
          s.inRelationTable || (s.entity.isSome && isRelationHeader row) } := by
  obtain ⟨topic, component, entity, inTable⟩ := s
  cases entity with
  | none => simp [tableRow]
  | some entity =>
    cases inTable with
    | true => simp [tableRow]
    | false => cases h : isRelationHeader row <;> simp [tableRow, h]

/-- A component heading gives at most the fact of its own name. -/
theorem mem_componentHeading {s : State} {text : List Char} {fact : Fact}
    (h : fact ∈ (s.componentHeading text).2) :
    s.topic = .components ∧ isPlausibleName (componentName text) = true ∧
      fact = .component (String.ofList (componentName text)) := by
  unfold componentHeading at h
  split at h
  · rename_i ht
    dsimp only at h
    split at h
    · rename_i hp
      exact ⟨ht, hp, List.mem_singleton.mp h⟩
    · cases h
  · cases h

/-- An entity heading gives at most the fact of the entity it names. -/
theorem mem_entityHeading {s : State} {mode : Mode} {text : List Char} {fact : Fact}
    (h : fact ∈ (s.entityHeading mode text).2) :
    ∃ name, entityName? text = some name ∧ fact = .entity (String.ofList name) := by
  unfold entityHeading at h
  split at h
  · rename_i name hn
    split at hn
    · exact ⟨name, hn, List.mem_singleton.mp h⟩
    · cases hn
  · cases h

/-- A row gives a field or, inside a relation table, a relation, both to the current
entity. -/
theorem mem_facts_tableRow {s : State} {row : List Char} {fact : Fact}
    (h : fact ∈ (s.tableRow row).facts) :
    ∃ entity, s.entity = some entity ∧
      ((∃ name, fieldName? row = some name ∧ fact = .field entity name) ∨
        (s.inRelationTable = true ∧
          ∃ target, tableTarget? row = some target ∧ fact = .tableRelation ⟨entity, target⟩)) := by
  obtain ⟨topic, component, entity, inTable⟩ := s
  cases entity with
  | none => cases h
  | some entity =>
    have hfield : ∀ f ∈ fieldFacts entity row, ∃ name, fieldName? row = some name ∧
        f = .field entity name := by
      intro f hf
      obtain ⟨name, hn, rfl⟩ := Option.map_eq_some_iff.mp (Option.mem_toList.mp hf)
      exact ⟨name, hn, rfl⟩
    have htarget : ∀ f ∈ targetFacts entity row, ∃ target, tableTarget? row = some target ∧
        f = .tableRelation ⟨entity, target⟩ := by
      intro f hf
      obtain ⟨target, ht, rfl⟩ := Option.map_eq_some_iff.mp (Option.mem_toList.mp hf)
      exact ⟨target, ht, rfl⟩
    refine ⟨entity, rfl, ?_⟩
    cases inTable with
    | true =>
      rcases List.mem_append.mp h with ht | hf
      · exact .inr ⟨rfl, htarget fact ht⟩
      · exact .inl (hfield fact hf)
    | false =>
      simp only [tableRow, Bool.false_eq_true, ↓reduceIte] at h
      split at h
      · cases h
      · exact .inl (hfield fact h)

/-- A plain line gives only dependencies of the current component. -/
theorem mem_facts_plainText {s : State} {text : List Char} {fact : Fact}
    (h : fact ∈ (s.plainText text).facts) :
    s.topic = .components ∧ ∃ component, s.component = some component ∧
      ∃ target ∈ dependencyTargets text, fact = .dependency ⟨component, target⟩ := by
  unfold plainText at h
  dsimp only at h
  split at h
  · rename_i component ht hc
    obtain ⟨target, hm, rfl⟩ := List.mem_map.mp h
    exact ⟨ht, component, hc, target, hm, rfl⟩
  · cases h

/-- Only a plain line under a component gives dependencies, and gives them to it. -/
theorem of_mem_facts_dependency {s : State} {mode : Mode} {line : Line} {r : Relation}
    (h : .dependency r ∈ (s.step mode line).facts) :
    ∃ text, line = .plain text ∧ s.topic = .components ∧ s.component = some r.source ∧
      r.target ∈ dependencyTargets text := by
  cases line with
  | sectionHeading title => cases h
  | subHeading text =>
    rcases List.mem_append.mp h with hc | he
    · obtain ⟨-, -, hf⟩ := mem_componentHeading hc
      cases hf
    · obtain ⟨name, -, hf⟩ := mem_entityHeading he
      cases hf
  | tableRow row =>
    obtain ⟨entity, -, ⟨name, -, hf⟩ | ⟨-, target, -, hf⟩⟩ := mem_facts_tableRow h
    · cases hf
    · cases hf
  | plain text =>
    obtain ⟨ht, component, hc, target, hm, hf⟩ := mem_facts_plainText h
    cases hf
    exact ⟨text, rfl, ht, hc, hm⟩

/-- Only a sub-heading in a section of components gives a component, whose name it leaves. -/
theorem of_mem_facts_component {s : State} {mode : Mode} {line : Line} {name : String}
    (h : .component name ∈ (s.step mode line).facts) :
    ∃ text, line = .subHeading text ∧ s.topic = .components ∧
      isPlausibleName (componentName text) = true ∧ name = String.ofList (componentName text) := by
  cases line with
  | sectionHeading title => cases h
  | subHeading text =>
    rcases List.mem_append.mp h with hc | he
    · obtain ⟨ht, hp, hf⟩ := mem_componentHeading hc
      cases hf
      exact ⟨text, rfl, ht, hp, rfl⟩
    · obtain ⟨name, -, hf⟩ := mem_entityHeading he
      cases hf
  | tableRow row =>
    obtain ⟨entity, -, ⟨name, -, hf⟩ | ⟨-, target, -, hf⟩⟩ := mem_facts_tableRow h
    · cases hf
    · cases hf
  | plain text =>
    obtain ⟨-, component, -, target, -, hf⟩ := mem_facts_plainText h
    cases hf

/-- Only a row gives a relation of a relation table, to the current entity. -/
theorem of_mem_facts_tableRelation {s : State} {mode : Mode} {line : Line} {r : Relation}
    (h : .tableRelation r ∈ (s.step mode line).facts) :
    ∃ row, line = .tableRow row ∧ s.entity = some r.source ∧ tableTarget? row = some r.target := by
  cases line with
  | sectionHeading title => cases h
  | subHeading text =>
    rcases List.mem_append.mp h with hc | he
    · obtain ⟨-, -, hf⟩ := mem_componentHeading hc
      cases hf
    · obtain ⟨name, -, hf⟩ := mem_entityHeading he
      cases hf
  | tableRow row =>
    obtain ⟨entity, he, ⟨name, -, hf⟩ | ⟨-, target, ht, hf⟩⟩ := mem_facts_tableRow h
    · cases hf
    · cases hf
      exact ⟨row, rfl, he, ht⟩
  | plain text =>
    obtain ⟨-, component, -, target, -, hf⟩ := mem_facts_plainText h
    cases hf

def after (mode : Mode) (s : State) (lines : List Line) : State :=
  lines.foldl (fun s line => (s.step mode line).state) s

/-- The facts of a list of lines, in order. -/
def factsOf (mode : Mode) (s : State) (lines : List Line) : List Fact :=
  (s.steps mode lines).flatMap Step.facts

@[simp] theorem after_nil (mode : Mode) (s : State) : s.after mode [] = s := rfl

@[simp] theorem after_cons (mode : Mode) (s : State) (line : Line) (rest : List Line) :
    s.after mode (line :: rest) = (s.step mode line).state.after mode rest := rfl

theorem after_append (mode : Mode) (s : State) (xs ys : List Line) :
    s.after mode (xs ++ ys) = (s.after mode xs).after mode ys := by
  simp only [after, List.foldl_append]

theorem after_concat (mode : Mode) (s : State) (lines : List Line) (line : Line) :
    s.after mode (lines ++ [line]) = ((s.after mode lines).step mode line).state := by
  rw [after_append, after_cons, after_nil]

theorem steps_append (mode : Mode) (s : State) (xs ys : List Line) :
    s.steps mode (xs ++ ys) = s.steps mode xs ++ (s.after mode xs).steps mode ys := by
  induction xs generalizing s with
  | nil => rfl
  | cons line rest ih => simp only [List.cons_append, steps, ih, after_cons]

theorem length_steps (mode : Mode) (s : State) (lines : List Line) :
    (s.steps mode lines).length = lines.length := by
  induction lines generalizing s with
  | nil => rfl
  | cons line rest ih => simp only [steps, List.length_cons, ih]

/-- The step at a line starts from the state after all lines before it. -/
theorem getElem?_steps_at (mode : Mode) (s : State) (before rest : List Line) (line : Line) :
    (s.steps mode (before ++ line :: rest))[before.length]? =
      some ((s.after mode before).step mode line) := by
  rw [steps_append, List.getElem?_append_right (Nat.le_of_eq (length_steps mode s before)),
    length_steps]
  simp [steps]

theorem factsOf_cons (mode : Mode) (s : State) (line : Line) (rest : List Line) :
    s.factsOf mode (line :: rest) =
      (s.step mode line).facts ++ (s.step mode line).state.factsOf mode rest := by
  simp only [factsOf, steps, List.flatMap_cons]

theorem factsOf_append (mode : Mode) (s : State) (xs ys : List Line) :
    s.factsOf mode (xs ++ ys) = s.factsOf mode xs ++ (s.after mode xs).factsOf mode ys := by
  simp only [factsOf, steps_append, List.flatMap_append]

/-- A fact of a list of lines is one of a single step. -/
theorem mem_factsOf {mode : Mode} {s : State} {lines : List Line} {fact : Fact} :
    fact ∈ s.factsOf mode lines ↔ ∃ before line rest, lines = before ++ line :: rest ∧
      fact ∈ ((s.after mode before).step mode line).facts := by
  constructor
  · intro h
    induction lines generalizing s with
    | nil => cases h
    | cons line rest ih =>
      rw [factsOf_cons] at h
      rcases List.mem_append.mp h with h | h
      · exact ⟨[], line, rest, rfl, h⟩
      · obtain ⟨before, later, more, rfl, hfact⟩ := ih h
        exact ⟨line :: before, later, more, rfl, hfact⟩
  · rintro ⟨before, line, rest, rfl, h⟩
    rw [factsOf_append, factsOf_cons]
    exact List.mem_append_right _ (List.mem_append_left _ h)

/-- Lines that leave a state as it is contribute each what it gives in that state. -/
theorem factsOf_map_of_unchanged {α : Type} {mode : Mode} {s : State} {line : α → Line}
    {given : α → List Fact} {as : List α} (h : ∀ a ∈ as, s.step mode (line a) = ⟨s, given a⟩) :
    s.factsOf mode (as.map line) = as.flatMap given ∧ s.after mode (as.map line) = s := by
  induction as with
  | nil => exact ⟨rfl, rfl⟩
  | cons a rest ih =>
    obtain ⟨hfacts, hafter⟩ := ih fun b hm => h b (List.mem_cons_of_mem a hm)
    rw [List.map_cons, factsOf_cons, after_cons, h a List.mem_cons_self, hfacts, hafter,
      List.flatMap_cons]
    exact ⟨rfl, rfl⟩

/-- Blocks of lines, each with known facts from any state of a kind and again such a state
after it, contribute the facts of all blocks. -/
theorem factsOf_flatMap {α : Type} {mode : Mode} {kind : State → Prop} {block : α → List Line}
    {given : α → List Fact} {as : List α}
    (h : ∀ a ∈ as, ∀ s, kind s →
      s.factsOf mode (block a) = given a ∧ kind (s.after mode (block a)))
    {s : State} (hs : kind s) : s.factsOf mode (as.flatMap block) = as.flatMap given := by
  induction as generalizing s with
  | nil => rfl
  | cons a rest ih =>
    obtain ⟨hfacts, hafter⟩ := h a List.mem_cons_self s hs
    rw [List.flatMap_cons, List.flatMap_cons, factsOf_append, hfacts,
      ih (fun b hm => h b (List.mem_cons_of_mem a hm)) hafter]

end State

/-- The facts of a text are those of its lines from the initial state. -/
theorem facts_eq_factsOf (mode : Mode) (text : List Char) :
    facts mode text = State.initial.factsOf mode ((Text.lines text).map Line.classify) := rfl

end DesignGraph.Document
