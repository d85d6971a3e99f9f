import DesignGraph.Proofs.Document.Outline
import DesignGraph.Proofs.Text.Trimming

/-!
# The names that a scan gives

Every name is cut out of one line and none is empty. A component has a short name without
decoration at its ends, an entity a capitalized identifier, a field an identifier that is no
word of a table header. The invariant behind it: the component and the entity that a state
holds have names that may stand in a relation.
-/
namespace DesignGraph.Document

open Text

/-- A name that may stand in a relation: it is not empty and stands on one line. -/
def IsLabel (name : String) : Prop := name.toList ≠ [] ∧ '\n' ∉ name.toList

/-- A name that the graph may list as a component. -/
structure IsComponentName (name : String) : Prop where
  length : 1 ≤ name.toList.length ∧ name.toList.length ≤ 49
  oneLine : '\n' ∉ name.toList
  undecorated : ∀ c ∈ ['\x60', '*', '_', ' '],
    name.toList.head? ≠ some c ∧ name.toList.getLast? ≠ some c

/-- A name that the graph may list as an entity. -/
def IsEntityName (name : String) : Prop :=
  IsIdentifier name.toList ∧ name.toList.head?.any isUppercase = true

theorem isLabel_of_isIdentifier {name : String} (h : IsIdentifier name.toList) : IsLabel name :=
  ⟨h.1, h.not_mem (by decide)⟩

/-! ## Lines -/

/-- What a line says, without the signs of its shape. -/
def Line.content : Line → List Char
  | .sectionHeading title => title
  | .subHeading text => text
  | .tableRow row => row
  | .plain text => text

theorem headingText?_subset {level : Nat} {raw text : List Char}
    (h : headingText? level raw = some text) : text ⊆ raw := by
  rw [headingText?] at h
  split at h
  · rename_i c rest hp
    obtain rfl := List.isPrefixOf?_eq_some_iff_append_eq.mp hp
    split at h
    · obtain rfl := Option.some.inj h
      exact fun d hd => List.mem_append_right _ (trim_subset _ hd)
    · cases h
  · cases h

theorem Line.content_classify_subset (raw : List Char) : (Line.classify raw).content ⊆ raw := by
  rw [Line.classify]
  split
  · rename_i title hsection
    exact headingText?_subset hsection
  · split
    · rename_i text hsub
      exact headingText?_subset hsub
    · split
      · exact trimStart_subset raw
      · exact List.Subset.refl raw

/-- No line holds a line feed. -/
theorem not_mem_content {text : List Char} {line : Line}
    (h : line ∈ (lines text).map Line.classify) : '\n' ∉ line.content := by
  obtain ⟨raw, hraw, rfl⟩ := List.mem_map.mp h
  exact fun hc => not_mem_of_mem_lines hraw (Line.content_classify_subset raw hc)

/-! ## Headings -/

theorem componentName_subset (text : List Char) : componentName text ⊆ text := by
  have hdrop : ∀ raw, dropClosingParenthetical raw ⊆ raw := by
    intro raw c hc
    rw [dropClosingParenthetical] at hc
    split at hc
    · exact List.takeWhile_subset _ (dropEndWhile_subset isBlank _ hc)
    · exact hc
  intro c hc
  exact trim_subset text (hdrop _ (trimWhile_subset isDecoration _ hc))

theorem isComponentName_componentName {text : List Char} (hline : '\n' ∉ text)
    (h : isPlausibleName (componentName text) = true) :
    IsComponentName (String.ofList (componentName text)) := by
  rw [isPlausibleName, Bool.and_eq_true, Bool.not_eq_true', List.isEmpty_eq_false_iff,
    decide_eq_true_eq] at h
  refine ⟨?_, ?_, ?_⟩
  · have hpositive := List.length_pos_of_ne_nil h.1
    have hshort : (componentName text).length < 50 := h.2
    rw [String.toList_ofList]
    omega
  · rw [String.toList_ofList]
    exact fun hc => hline (componentName_subset text hc)
  · intro c hc
    have hdecoration := isDecoration_iff_mem.mpr hc
    rw [String.toList_ofList]
    constructor
    · intro hhead
      rw [head?_trimWhile hhead] at hdecoration
      cases hdecoration
    · intro hlast
      rw [getLast?_trimWhile hlast] at hdecoration
      cases hdecoration

theorem isEntityName_of_entityName? {text name : List Char} (h : entityName? text = some name) :
    IsEntityName (String.ofList name) := by
  rw [entityName?] at h
  split at h
  · rename_i hupper
    obtain rfl := Option.some.inj h
    rw [IsEntityName, String.toList_ofList]
    refine ⟨⟨?_, fun c hc => List.mem_takeWhile_imp hc⟩, hupper⟩
    intro hnil
    rw [hnil] at hupper
    cases hupper
  · cases h

/-! ## Rows -/

theorem isFieldName_of_fieldName? {row : List Char} {name : String}
    (h : fieldName? row = some name) : IsFieldName name := by
  obtain ⟨_, _, -, hname, htoken⟩ := fieldName?_eq_some_iff.mp h
  exact ⟨hname.1, htoken⟩

theorem isIdentifier_of_tableTarget? {row : List Char} {target : String}
    (h : tableTarget? row = some target) : IsIdentifier target.toList := by
  obtain ⟨_, _, _, -, -, -, hname, -⟩ := tableTarget?_eq_some_iff.mp h
  exact hname.1

/-! ## Dependency items -/

theorem after?_subset {beginning : String} {text rest : List Char}
    (h : after? beginning text = some rest) : rest ⊆ text := by
  obtain rfl := List.isPrefixOf?_eq_some_iff_append_eq.mp h
  exact List.subset_append_right _ _

theorem splitAtStars?_subset {text before after : List Char}
    (h : splitAtStars? text = some (before, after)) : after ⊆ text := by
  induction text using splitAtStars?.induct generalizing before with
  | case1 rest =>
    cases h
    exact fun c hc => List.mem_cons_of_mem _ (List.mem_cons_of_mem _ hc)
  | case2 c rest hstars ih =>
    rw [splitAtStars?] at h
    · obtain ⟨⟨front, back⟩, hrest, heq⟩ := Option.map_eq_some_iff.mp h
      cases heq
      exact fun d hd => List.mem_cons_of_mem _ (ih hrest hd)
    · exact hstars
  | case3 => cases h

theorem dependencyValue?_subset {line value : List Char} (h : dependencyValue? line = some value) :
    value ⊆ line := by
  rw [dependencyValue?] at h
  obtain ⟨item, hitem, h⟩ := Option.bind_eq_some_iff.mp h
  obtain ⟨-, -, h⟩ := Option.bind_eq_some_iff.mp h
  obtain ⟨bold, hbold, h⟩ := Option.bind_eq_some_iff.mp h
  obtain ⟨⟨label, rest⟩, hrest, h⟩ := Option.bind_eq_some_iff.mp h
  obtain ⟨-, -, h⟩ := Option.bind_eq_some_iff.mp h
  obtain ⟨given, hgiven, h⟩ := Option.bind_eq_some_iff.mp h
  obtain rfl := Option.some.inj h
  intro c hc
  have hrest' := trimStart_subset _ (after?_subset hgiven (trim_subset given hc))
  have hitem' := trimStart_subset _ (after?_subset hbold (splitAtStars?_subset hrest hrest'))
  exact trimStart_subset _ (after?_subset hitem hitem')

theorem splitTopLevel_subset {depth : Nat} {text piece : List Char}
    (h : piece ∈ splitTopLevel depth text) : piece ⊆ text := by
  induction text generalizing depth piece with
  | nil =>
    rw [splitTopLevel, List.mem_singleton] at h
    rw [h]
    exact List.Subset.refl []
  | cons c rest ih =>
    rw [splitTopLevel] at h
    split at h
    · rcases List.mem_cons.mp h with rfl | h
      · exact List.nil_subset _
      · exact fun d hd => List.mem_cons_of_mem c (ih h hd)
    · split at h
      · rw [List.mem_singleton.mp h]
        exact List.cons_subset_cons c (List.nil_subset rest)
      · rename_i first more hsplit
        rcases List.mem_cons.mp h with rfl | h
        · exact List.cons_subset_cons c (ih (hsplit ▸ List.mem_cons_self))
        · exact fun d hd => List.mem_cons_of_mem c (ih (hsplit ▸ List.mem_cons_of_mem first h) hd)

theorem dropParentheticals_subset (depth : Nat) (text : List Char) :
    dropParentheticals depth text ⊆ text := by
  fun_induction dropParentheticals depth text with
  | case1 => exact List.Subset.refl []
  | case2 depth rest ih => exact fun d hd => List.mem_cons_of_mem _ (ih hd)
  | case3 c rest hopen ih => exact List.cons_subset_cons c ih
  | case4 rest outer hopen ih => exact fun d hd => List.mem_cons_of_mem _ (ih hd)
  | case5 c rest hopen outer hclose ih => exact fun d hd => List.mem_cons_of_mem c (ih hd)

/-- An empty value says that there is nothing, so it is no target. -/
theorem isLabel_of_mem_dependencyTargets {line : List Char} {target : String}
    (hline : '\n' ∉ line) (h : target ∈ dependencyTargets line) : IsLabel target := by
  rw [dependencyTargets] at h
  split at h
  · cases h
  · rename_i value hvalue
    split at h
    · cases h
    · obtain ⟨name, hname, rfl⟩ := List.mem_map.mp h
      obtain ⟨hpiece, hsays⟩ := List.mem_filter.mp hname
      obtain ⟨piece, hsplit, rfl⟩ := List.mem_map.mp hpiece
      rw [IsLabel, String.toList_ofList]
      constructor
      · intro hnil
        rw [hnil] at hsays
        revert hsays
        decide
      · intro hc
        have hpiece := dropParentheticals_subset 0 piece
          (trim_subset _ (trimWhile_subset isDecoration _ hc))
        exact hline (dependencyValue?_subset hvalue (splitTopLevel_subset hsplit hpiece))

/-! ## Arrows -/

theorem isIdentifier_leadingWord {text : List Char} (h : (leadingWord text).isEmpty = false) :
    IsIdentifier (leadingWord text) :=
  ⟨List.isEmpty_eq_false_iff.mp h, fun _ hc => List.mem_takeWhile_imp hc⟩

theorem isIdentifier_trailingWord {reversed : List Char}
    (h : (trailingWord reversed).isEmpty = false) : IsIdentifier (trailingWord reversed) :=
  ⟨List.isEmpty_eq_false_iff.mp h, fun _ hc => List.mem_takeWhile_imp (List.mem_reverse.mp hc)⟩

theorem isIdentifier_of_arrowPair? {reversed after : List Char} {r : Relation}
    (h : arrowPair? reversed after = some r) :
    IsIdentifier r.source.toList ∧ IsIdentifier r.target.toList := by
  rw [arrowPair?] at h
  split at h
  · cases h
  · rename_i hempty
    rw [Bool.or_eq_true, not_or, Bool.not_eq_true, Bool.not_eq_true] at hempty
    obtain rfl := Option.some.inj h
    rw [String.toList_ofList, String.toList_ofList]
    exact ⟨isIdentifier_trailingWord hempty.1, isIdentifier_leadingWord hempty.2⟩

theorem isIdentifier_of_mem_arrowPairs {text : List Char} {r : Relation}
    (h : r ∈ arrowPairs text) : IsIdentifier r.source.toList ∧ IsIdentifier r.target.toList := by
  suffices ∀ reversed, r ∈ arrowPairsAfter reversed text →
      IsIdentifier r.source.toList ∧ IsIdentifier r.target.toList from this [] h
  clear h
  induction text with
  | nil =>
    intro reversed h
    cases h
  | cons c rest ih =>
    intro reversed h
    rw [arrowPairsAfter] at h
    rcases List.mem_append.mp h with h | h
    · obtain ⟨after, -, hpair⟩ := Option.bind_eq_some_iff.mp (Option.mem_toList.mp h)
      exact isIdentifier_of_arrowPair? hpair
    · exact ih _ h

theorem isLabel_of_mem_arrowPairs {text : List Char} {r : Relation} (h : r ∈ arrowPairs text) :
    IsLabel r.source ∧ IsLabel r.target :=
  (isIdentifier_of_mem_arrowPairs h).imp isLabel_of_isIdentifier isLabel_of_isIdentifier

/-! ## Facts -/

/-- The names in the fact are of their kinds. -/
def Fact.WellNamed : Fact → Prop
  | .component name => IsComponentName name
  | .entity name => IsEntityName name
  | .field _ name => IsFieldName name
  | .dependency r => IsLabel r.source ∧ IsLabel r.target
  | .tableRelation r => IsLabel r.source ∧ IsLabel r.target

/-- The component and the entity that the next lines belong to may stand in a relation. -/
structure State.WellNamed (s : State) : Prop where
  component : ∀ name, s.component = some name → IsLabel name
  entity : ∀ name, s.entity = some name → IsLabel name

namespace State

theorem wellNamed_initial : State.initial.WellNamed := ⟨nofun, nofun⟩

/-- The current component after a heading: the one that the heading names, or the one
before. -/
theorem isLabel_componentHeading {s : State} {text : List Char} {name : String}
    (hs : s.WellNamed) (hline : '\n' ∉ text) (h : (s.componentHeading text).1 = some name) :
    IsLabel name := by
  rw [componentHeading] at h
  split at h
  · dsimp only at h
    split at h
    · cases h
    · rename_i hempty
      obtain rfl := Option.some.inj h
      rw [IsLabel, String.toList_ofList]
      exact ⟨fun hnil => hempty (by rw [hnil]; rfl), fun hc => hline (componentName_subset text hc)⟩
  · exact hs.component name h

theorem isLabel_entityHeading {s : State} {mode : Mode} {text : List Char} {name : String}
    (hs : s.WellNamed) (h : (s.entityHeading mode text).1 = some name) : IsLabel name := by
  rw [entityHeading] at h
  split at h
  · rename_i found hfound
    obtain rfl := Option.some.inj h
    split at hfound
    · exact isLabel_of_isIdentifier (isEntityName_of_entityName? hfound).1
    · cases hfound
  · exact hs.entity name h

/-- A line without a line feed gives facts of well-formed names, and leaves such a state. -/
theorem step_wellNamed (mode : Mode) {s : State} {line : Line} (hs : s.WellNamed)
    (hline : '\n' ∉ line.content) :
    (s.step mode line).state.WellNamed ∧ ∀ fact ∈ (s.step mode line).facts, fact.WellNamed := by
  cases line with
  | sectionHeading title =>
    refine ⟨⟨nofun, fun name h => ?_⟩, nofun⟩
    cases mode with
    | strict => cases h
    | relaxed => exact hs.entity name h
  | subHeading text =>
    refine ⟨⟨fun name h => ?_, fun name h => ?_⟩, fun fact hf => ?_⟩
    · exact isLabel_componentHeading hs hline h
    · exact isLabel_entityHeading hs h
    · rcases List.mem_append.mp hf with hf | hf
      · obtain ⟨-, hplausible, rfl⟩ := mem_componentHeading hf
        exact isComponentName_componentName hline hplausible
      · obtain ⟨name, hname, rfl⟩ := mem_entityHeading hf
        exact isEntityName_of_entityName? hname
  | tableRow row =>
    refine ⟨?_, fun fact hf => ?_⟩
    · rw [step, state_tableRow]
      exact ⟨hs.component, hs.entity⟩
    · obtain ⟨entity, hentity, ⟨name, hname, rfl⟩ | ⟨-, target, htarget, rfl⟩⟩ :=
        mem_facts_tableRow hf
      · exact isFieldName_of_fieldName? hname
      · exact ⟨hs.entity entity hentity,
          isLabel_of_isIdentifier (isIdentifier_of_tableTarget? htarget)⟩
  | plain text =>
    refine ⟨⟨hs.component, hs.entity⟩, fun fact hf => ?_⟩
    obtain ⟨-, component, hcomponent, target, htarget, rfl⟩ := mem_facts_plainText hf
    exact ⟨hs.component component hcomponent, isLabel_of_mem_dependencyTargets hline htarget⟩

theorem factsOf_wellNamed {s : State} {mode : Mode} {lines : List Line} (hs : s.WellNamed)
    (hlines : ∀ line ∈ lines, '\n' ∉ line.content) :
    ∀ fact ∈ s.factsOf mode lines, fact.WellNamed := by
  induction lines generalizing s with
  | nil => exact nofun
  | cons line rest ih =>
    obtain ⟨hnext, hfacts⟩ := step_wellNamed mode hs (hlines line List.mem_cons_self)
    intro fact hf
    rw [factsOf_cons] at hf
    rcases List.mem_append.mp hf with hf | hf
    · exact hfacts fact hf
    · exact ih hnext (fun other hm => hlines other (List.mem_cons_of_mem line hm)) fact hf

end State

/-- The facts of any text have well-formed names. -/
theorem facts_wellNamed {mode : Mode} {text : List Char} {fact : Fact}
    (h : fact ∈ facts mode text) :
    fact.WellNamed :=
  State.factsOf_wellNamed State.wellNamed_initial (fun _ hm => not_mem_content hm) fact h

end DesignGraph.Document
