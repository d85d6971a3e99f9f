import DesignGraph.Proofs.Document.History
import DesignGraph.Proofs.Graph.Extract

/-!
# What the facts of a scan are attached to

A field or a relation of a relation table goes to the entity declared last before it, a
dependency to the component of the last sub-heading, which stands in the same section of
components. So no field meets a table of entities without its entity, and the graph shows
for an entity all fields given to it since its last declaration.
-/
namespace DesignGraph

namespace Document

/-- The last value that a function finds in a list is found at one place, and nothing is
found after it. -/
theorem exists_of_getLast?_filterMap {α β : Type} {f : α → Option β} {l : List α} {b : β}
    (h : (l.filterMap f).getLast? = some b) :
    ∃ before a after, l = before ++ a :: after ∧ f a = some b ∧ ∀ x ∈ after, f x = none := by
  obtain ⟨found, hfound⟩ := List.getLast?_eq_some_iff.mp h
  obtain ⟨front, back, rfl, -, hback⟩ := List.filterMap_eq_append_iff.mp hfound
  obtain ⟨skipped, a, after, rfl, -, ha, hafter⟩ := List.filterMap_eq_cons_iff.mp hback
  refine ⟨front ++ skipped, a, after, ?_, ha, List.filterMap_eq_nil_iff.mp hafter⟩
  rw [List.append_assoc]

/-- The last sub-heading of the lines leaves this name for a component, and the last section
heading stands before it and opens a section of components. -/
def EndsUnder (component : String) (seen : List Line) : Prop :=
  ∃ before title between heading after,
    seen = before ++ .sectionHeading title :: (between ++ .subHeading heading :: after) ∧
      isComponentTitle title = true ∧
      (∀ line ∈ between ++ .subHeading heading :: after, line.sectionTitle? = none) ∧
      (∀ line ∈ after, line.subHeading? = none) ∧
      componentName heading ≠ [] ∧ component = String.ofList (componentName heading)

theorem isComponentTitle_of_ofTitle {title : List Char} (h : Topic.ofTitle title = .components) :
    isComponentTitle title = true := by
  unfold Topic.ofTitle at h
  split at h
  · assumption
  · split at h <;> cases h

/-- Lines in a section of components are cut at the heading of that section. -/
theorem exists_section_of_topicOf {seen : List Line} (h : topicOf seen = .components) :
    ∃ before title under, seen = before ++ .sectionHeading title :: under ∧
      isComponentTitle title = true ∧ ∀ line ∈ under, line.sectionTitle? = none := by
  rw [topicOf] at h
  cases hl : (seen.filterMap Line.sectionTitle?).getLast? with
  | none =>
    rw [hl] at h
    cases h
  | some title =>
    rw [hl] at h
    obtain ⟨before, line, under, rfl, hline, hunder⟩ := exists_of_getLast?_filterMap hl
    obtain rfl := Line.sectionTitle?_eq_some.mp hline
    exact ⟨before, title, under, rfl, isComponentTitle_of_ofTitle h, hunder⟩

theorem underSection_append {under : List Line} (h : ∀ line ∈ under, line.sectionTitle? = none)
    (before : List Line) (title : List Char) :
    underSection (before ++ .sectionHeading title :: under) = under := by
  -- from the end, as the lines under a heading are collected
  induction under using List.reverseRecOn with
  | nil => simp [Line.sectionTitle?]
  | append_singleton under line ih =>
    have hline : line.sectionTitle? = none := h line (List.mem_append_right _ List.mem_cons_self)
    have hunder := ih fun other hm => h other (List.mem_append_left _ hm)
    rw [← List.cons_append, ← List.append_assoc, underSection_concat, hline, hunder]
    rfl

theorem topicOf_append_section {title : List Char} {under : List Line}
    (htitle : isComponentTitle title = true) (h : ∀ line ∈ under, line.sectionTitle? = none)
    (before : List Line) : topicOf (before ++ .sectionHeading title :: under) = .components := by
  have hunder : (Line.sectionHeading title :: under).filterMap Line.sectionTitle? = [title] := by
    rw [List.filterMap_cons, List.filterMap_eq_nil_iff.mpr h]
    rfl
  rw [topicOf, List.filterMap_append, hunder, List.getLast?_concat, Option.elim_some,
    Topic.ofTitle, if_pos htitle]

theorem endsUnder_of_currentComponent? {seen : List Line} {component : String}
    (h : currentComponent? seen = some component) : EndsUnder component seen := by
  unfold currentComponent? at h
  split at h
  · rename_i htopic
    obtain ⟨before, title, under, rfl, htitle, hunder⟩ := exists_section_of_topicOf htopic
    rw [underSection_append hunder] at h
    obtain ⟨heading, hlast, hname⟩ := Option.bind_eq_some_iff.mp h
    obtain ⟨between, line, after, rfl, hline, hafter⟩ := exists_of_getLast?_filterMap hlast
    obtain rfl := Line.subHeading?_eq_some.mp hline
    obtain ⟨hne, rfl⟩ := headedComponent?_eq_some.mp hname
    exact ⟨before, title, between, heading, after, rfl, htitle, hunder, hafter, hne, rfl⟩
  · cases h

/-- A dependency comes from a plain line and goes to the component that the lines before it
end under. -/
theorem endsUnder_of_dependency {mode : Mode} {text : List Char} {seen rest : List Line}
    {line : Line} {step : Step} {r : Relation}
    (hl : (Text.lines text).map Line.classify = seen ++ line :: rest)
    (hs : (scan mode text)[seen.length]? = some step) (hr : .dependency r ∈ step.facts) :
    EndsUnder r.source seen ∧ ∃ item, line = .plain item ∧ r.target ∈ dependencyTargets item := by
  rw [scan, hl, State.getElem?_steps_at, Option.some.injEq] at hs
  rw [← hs] at hr
  obtain ⟨item, hitem, -, hcomponent, htarget⟩ := State.of_mem_facts_dependency hr
  rw [State.after_initial] at hcomponent
  exact ⟨endsUnder_of_currentComponent? hcomponent, item, hitem, htarget⟩

/-- A fact's owner is the entity that the facts before it declared last. -/
theorem lastDeclared_of_owner {mode : Mode} {text : List Char} {before rest : List Fact}
    {fact : Fact} {owner : String} (hf : facts mode text = before ++ fact :: rest)
    (ho : fact.owner? = some owner) : lastDeclared none before = some owner := by
  have howned := facts_owned mode text
  rw [hf, owned_append] at howned
  exact howned.2.1 owner ho

end Document

open Document

/-- A field of the facts finds its entity in the table that the facts before it make, and
comes to the end of its fields. -/
theorem EntityTable.fields?_record_of_facts {mode : Mode} {text : List Char}
    {before rest : List Fact} {owner field : String}
    (hf : facts mode text = before ++ .field owner field :: rest) :
    ∃ fields, (before.foldl record .empty).fields? owner = some fields ∧
      ((before.foldl record .empty).record (.field owner field)).fields? owner =
        some (fields ++ [field]) := by
  have hlast : lastDeclared none before = some owner := lastDeclared_of_owner hf rfl
  rw [lastDeclared, Option.or_none] at hlast
  have hdeclared : .entity owner ∈ before :=
    Fact.mem_filterMap_entityName?.mp (List.mem_of_getLast? hlast)
  have hfields : (before.foldl record .empty).fields? owner = some (fieldsSince owner before) := by
    rw [fields?_foldl_record, if_pos hdeclared]
  refine ⟨fieldsSince owner before, hfields, ?_⟩
  rw [record, fields?_pushField, if_pos rfl, hfields]
  rfl

namespace Graph

/-- In the facts of any text, in either mode, a field or a table relation belongs to the
entity declared last before it, and a dependency to the component that the lines before it
end under, in a section of components. So each field finds its entity declared when it is
collected, and the graph holds for an entity exactly the fields given to it since its last
declaration. -/
theorem facts_belong_to_declared_owners (mode : Mode) (text : String) :
    (∀ before fact rest owner, facts mode text.toList = before ++ fact :: rest →
      fact.owner? = some owner → lastDeclared none before = some owner) ∧
    (∀ seen line rest step r, (Text.lines text.toList).map Line.classify = seen ++ line :: rest →
      (scan mode text.toList)[seen.length]? = some step → .dependency r ∈ step.facts →
      EndsUnder r.source seen ∧ ∃ item, line = .plain item ∧ r.target ∈ dependencyTargets item) ∧
    (∀ before owner field rest, facts mode text.toList = before ++ .field owner field :: rest →
      ∃ fields, (before.foldl EntityTable.record .empty).fields? owner = some fields ∧
        ((before.foldl EntityTable.record .empty).record (.field owner field)).fields? owner =
          some (fields ++ [field])) ∧
    ∀ entity, (extract mode text).fields? entity =
      if .entity entity ∈ facts mode text.toList
      then some (EntityTable.fieldsSince entity (facts mode text.toList)) else none := by
  refine ⟨?_, ?_, ?_, ?_⟩
  · intro before fact rest owner hf ho
    exact lastDeclared_of_owner hf ho
  · intro seen line rest step r hl hs hr
    exact endsUnder_of_dependency hl hs hr
  · intro before owner field rest hf
    exact EntityTable.fields?_record_of_facts hf
  · intro entity
    exact fields?_extract

end Graph

end DesignGraph
