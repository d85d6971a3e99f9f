import DesignGraph.Proofs.Document.Mentions
import DesignGraph.Proofs.Graph.Attribution
import DesignGraph.Proofs.Graph.WellFormed

/-!
# Blanks around the names of a graph

A heading and a piece of a dependency list are trimmed before the decoration is taken off,
and of all blanks decoration has the space alone. So a tab or a wide space between the
decoration and the name is neither trimmed nor decoration: it stays with the name. No other
blank comes into the graph at the end of a name, and names in rows and beside arrows are
identifiers, which have no blank in them at all.
-/
namespace DesignGraph

open Document Text

namespace Document

/-! ## Blanks behind decoration -/

/-- With only decoration outside of it, at one end of the text stands a blank other than the
space. -/
def HidesBlank (text : List Char) : Prop :=
  ∃ marks c rest, (∀ m ∈ marks, isDecoration m = true) ∧ isBlank c = true ∧ c ≠ ' ' ∧
    (text = marks ++ c :: rest ∨ text = rest ++ c :: marks)

theorem eq_space_of_isDecoration {c : Char} (hblank : isBlank c = true)
    (h : isDecoration c = true) : c = ' ' := by
  simp only [isDecoration_iff_mem, List.mem_cons, List.not_mem_nil, or_false] at h
  rcases h with rfl | rfl | rfl | rfl
  · cases hblank
  · cases hblank
  · cases hblank
  · rfl

/-- The hidden blank comes to stand at the end of the name. -/
theorem HidesBlank.exists_end {text : List Char} (h : HidesBlank text) :
    ∃ c, isBlank c = true ∧
      ((trimDecoration text).head? = some c ∨ (trimDecoration text).getLast? = some c) := by
  obtain ⟨marks, c, rest, hmarks, hblank, hspace, htext⟩ := h
  have hc : ∀ d, d = c → isDecoration d = false := by
    rintro d rfl
    exact Bool.eq_false_iff.mpr fun h => hspace (eq_space_of_isDecoration hblank h)
  have hkept : ∀ front back, trimDecoration (front ++ ([c] ++ back)) =
      front.dropWhile isDecoration ++ ([c] ++ dropEndWhile isDecoration back) := by
    refine trimWhile_append (List.cons_ne_nil c []) (fun d hd => ?_) fun d hd => ?_
    · exact hc d (Option.some.inj hd).symm
    · exact hc d (Option.some.inj hd).symm
  refine ⟨c, hblank, ?_⟩
  rcases htext with rfl | rfl
  · left
    rw [← List.singleton_append, hkept, List.dropWhile_eq_nil_iff.mpr hmarks]
    rfl
  · right
    have hend : dropEndWhile isDecoration marks = [] := by
      rw [dropEndWhile, List.reverse_eq_nil_iff, List.dropWhile_eq_nil_iff]
      exact fun m hm => hmarks m (List.mem_reverse.mp hm)
    rw [← List.singleton_append, hkept, hend, List.append_nil, List.getLast?_concat]

/-- A blank at the end of a name was hidden by the decoration. -/
theorem hidesBlank_of_end {text : List Char} {c : Char} (hblank : isBlank c = true)
    (h : (trimDecoration text).head? = some c ∨ (trimDecoration text).getLast? = some c) :
    HidesBlank text := by
  obtain ⟨front, back, htext, hfront, hback⟩ := exists_trimWhile isDecoration text
  have hspace : c ≠ ' ' := by
    rintro rfl
    rcases h with h | h
    · exact absurd (head?_trimWhile h) (by decide)
    · exact absurd (getLast?_trimWhile h) (by decide)
  rcases h with h | h
  · obtain ⟨tail, hname⟩ := List.head?_eq_some_iff.mp h
    refine ⟨front, c, tail ++ back, hfront, hblank, hspace, .inl ?_⟩
    rw [htext, ← List.cons_append, ← hname]
    rfl
  · obtain ⟨body, hname⟩ := List.getLast?_eq_some_iff.mp h
    refine ⟨back, c, front ++ body, hback, hblank, hspace, .inr ?_⟩
    rw [htext, List.append_assoc, ← List.singleton_append, ← List.append_assoc body, ← hname]
    rfl

/-- Taking the decoration off a text leaves a blank at an end exactly if it was hidden. -/
theorem trim_trimDecoration_iff {text : List Char} :
    trim (trimDecoration text) = trimDecoration text ↔ ¬ HidesBlank text := by
  constructor
  · intro htrim hhides
    obtain ⟨c, hblank, h⟩ := hhides.exists_end
    rw [← htrim] at h
    rcases h with h | h
    · rw [head?_trimWhile h] at hblank
      cases hblank
    · rw [getLast?_trimWhile h] at hblank
      cases hblank
  · intro hhides
    refine trimWhile_eq_self (fun c hc => ?_) fun c hc => ?_
    · exact Bool.eq_false_iff.mpr fun hblank => hhides (hidesBlank_of_end hblank (.inl hc))
    · exact Bool.eq_false_iff.mpr fun hblank => hhides (hidesBlank_of_end hblank (.inr hc))

theorem isTrimmed_trimDecoration_iff {text : List Char} (h : trimDecoration text ≠ []) :
    IsTrimmed (String.ofList (trimDecoration text)) ↔ ¬ HidesBlank text := by
  rw [isTrimmed_iff, String.toList_ofList, trim_trimDecoration_iff, and_iff_left h]

/-! ## Where names come from -/

/-- What the names on a line are cut to before their decoration is taken off: the text of a
sub-heading and the pieces of a dependency list, without parentheticals and trimmed. -/
def Line.namingTexts : Line → List (List Char)
  | .subHeading text => [dropClosingParenthetical (trim text)]
  | .plain text => (dependencyValue? text).elim [] trimmedPieces
  | _ => []

/-- A line in a section of components names something by this text. -/
def NamedBy (text : String) (source : List Char) : Prop :=
  ∃ before line rest, (lines text.toList).map Line.classify = before ++ line :: rest ∧
    topicOf before = .components ∧ source ∈ line.namingTexts

/-- The name is what is left of a text with a hidden blank. -/
def KeepsHiddenBlank (text name : String) : Prop :=
  ∃ source, NamedBy text source ∧ HidesBlank source ∧
    name = String.ofList (trimDecoration source)

/-- A name that the decoration was taken off, or an identifier. -/
def HasOrigin (text name : String) : Prop :=
  IsIdentifier name.toList ∨ ∃ source, NamedBy text source ∧
    trimDecoration source ≠ [] ∧ name = String.ofList (trimDecoration source)

theorem HasOrigin.isTrimmed_iff {text name : String} (h : HasOrigin text name) :
    IsTrimmed name ↔ ¬ KeepsHiddenBlank text name := by
  constructor
  · rintro htrimmed ⟨source, -, hhides, rfl⟩
    have htrim := (Text.isTrimmed_iff.mp htrimmed).1
    rw [String.toList_ofList] at htrim
    exact trim_trimDecoration_iff.mp htrim hhides
  · intro hkeeps
    rcases h with hidentifier | ⟨source, hnamed, hne, rfl⟩
    · exact isTrimmed_of_isIdentifier hidentifier
    · exact (isTrimmed_trimDecoration_iff hne).mpr fun hhides =>
        hkeeps ⟨source, hnamed, hhides, rfl⟩

variable {mode : Mode} {text : String}

theorem ne_nil_of_isPlausibleName {name : List Char} (h : isPlausibleName name = true) :
    name ≠ [] := by
  rintro rfl
  cases h

theorem hasOrigin_of_component {name : String} (h : .component name ∈ facts mode text.toList) :
    HasOrigin text name := by
  obtain ⟨before, line, rest, hlines, hfact⟩ := mem_facts_iff.mp h
  obtain ⟨heading, rfl, htopic, hshort, rfl⟩ := State.of_mem_facts_component hfact
  exact .inr ⟨_, ⟨before, _, rest, hlines, htopic, List.mem_singleton_self _⟩,
    ne_nil_of_isPlausibleName hshort, rfl⟩

theorem hasOrigin_of_dependency {r : Relation} (h : .dependency r ∈ facts mode text.toList) :
    HasOrigin text r.source ∧ HasOrigin text r.target := by
  obtain ⟨seen, line, rest, hlines, hfact⟩ := mem_facts_iff.mp h
  obtain ⟨item, rfl, htopic, hcomponent, htarget⟩ := State.of_mem_facts_dependency hfact
  constructor
  · obtain ⟨before, title, between, heading, after, rfl, htitle, hunder, -, hne, hsource⟩ :=
      endsUnder_of_currentComponent? hcomponent
    refine .inr ⟨dropClosingParenthetical (trim heading),
      ⟨before ++ .sectionHeading title :: between, .subHeading heading, after ++ .plain item :: rest,
        ?_, ?_, List.mem_singleton_self _⟩, hne, hsource⟩
    · rw [hlines]
      simp only [List.append_assoc, List.cons_append]
    · exact topicOf_append_section htitle (fun line hm => hunder line (List.mem_append_left _ hm)) _
  · cases hvalue : dependencyValue? item with
    | none =>
      rw [dependencyTargets, hvalue] at htarget
      cases htarget
    | some value =>
      obtain ⟨hmeant, piece, hpiece, hname⟩ := exists_piece_of_mem_dependencyTargets hvalue htarget
      refine .inr ⟨trim piece, ⟨seen, .plain item, rest, hlines, htopic, ?_⟩, ?_, ?_⟩
      · rw [Line.namingTexts, hvalue]
        exact List.mem_map_of_mem hpiece
      · intro hnil
        rw [hname, hnil] at hmeant
        revert hmeant
        decide
      · rw [← hname, String.ofList_toList]

/-- The entity that a row belongs to is declared by a heading, and its target is an
identifier as well. -/
theorem isIdentifier_of_tableRelation {r : Relation}
    (h : .tableRelation r ∈ facts mode text.toList) :
    IsIdentifier r.source.toList ∧ IsIdentifier r.target.toList := by
  constructor
  · rcases (facts_owned mode text.toList).declared_of_mem h rfl with hnone | hentity
    · cases hnone
    · have hname : IsEntityName r.source := facts_wellNamed hentity
      exact hname.1
  · obtain ⟨before, line, rest, -, hfact⟩ := mem_facts_iff.mp h
    obtain ⟨row, -, -, htarget⟩ := State.of_mem_facts_tableRelation hfact
    exact isIdentifier_of_tableTarget? htarget

end Document

namespace Graph

variable {mode : Mode} {text : String}

theorem hasOrigin_of_relation {r : Relation} (h : r ∈ (extract mode text).relations) :
    HasOrigin text r.source ∧ HasOrigin text r.target := by
  rcases mem_relations_extract.mp h with h | h | h
  · exact hasOrigin_of_dependency h
  · exact (isIdentifier_of_tableRelation h).imp .inl .inl
  · exact (isIdentifier_of_mem_arrowPairs h).imp .inl .inl

/-- A sub-heading in a section of components gives its name to the graph, with the blank that
it hides. -/
theorem mem_components_of_heading {before rest : List Line} {heading : List Char}
    (hlines : (lines text.toList).map Line.classify = before ++ .subHeading heading :: rest)
    (htopic : topicOf before = .components)
    (hshort : isPlausibleName (componentName heading) = true) :
    String.ofList (componentName heading) ∈ (extract mode text).components := by
  have hgiven : .component (String.ofList (componentName heading)) ∈
      ((State.ofHistory mode before).step mode (.subHeading heading)).facts := by
    refine List.mem_append_left _ ?_
    simp only [State.ofHistory, htopic, hshort, ↓reduceIte, List.mem_singleton]
  have hfact := mem_facts_iff.mpr ⟨before, _, rest, hlines, hgiven⟩
  rw [components_extract, List.mem_eraseDups, List.mem_filterMap]
  exact ⟨_, hfact, rfl⟩

/-- In the graph of any text, in either mode, a component or an end of a relation has no blank
at its ends, unless the heading or the piece of a dependency list that names it hides one
behind its decoration. Relations of tables and arrows never have one. A sub-heading that does
hide one puts a component with a blank at its end into the graph. -/
theorem names_trimmed_unless_blank_hidden (mode : Mode) (text : String) :
    (∀ name ∈ (extract mode text).components,
      (IsTrimmed name ↔ ¬ KeepsHiddenBlank text name)) ∧
    (∀ r ∈ (extract mode text).relations,
      (IsTrimmed r.source ↔ ¬ KeepsHiddenBlank text r.source) ∧
      (IsTrimmed r.target ↔ ¬ KeepsHiddenBlank text r.target)) ∧
    (∀ r, .tableRelation r ∈ facts mode text.toList ∨ r ∈ arrowPairs text.toList →
      IsTrimmed r.source ∧ IsTrimmed r.target) ∧
    ∀ before heading rest,
      (lines text.toList).map Line.classify = before ++ .subHeading heading :: rest →
      topicOf before = .components → isPlausibleName (componentName heading) = true →
      HidesBlank (dropClosingParenthetical (trim heading)) →
      String.ofList (componentName heading) ∈ (extract mode text).components ∧
        ¬ IsTrimmed (String.ofList (componentName heading)) := by
  refine ⟨fun name hname => ?_, fun r hr => ?_, fun r hr => ?_, ?_⟩
  · exact (hasOrigin_of_component (mem_components_extract hname)).isTrimmed_iff
  · obtain ⟨hsource, htarget⟩ := hasOrigin_of_relation hr
    exact ⟨hsource.isTrimmed_iff, htarget.isTrimmed_iff⟩
  · rcases hr with hr | hr
    · exact (isIdentifier_of_tableRelation hr).imp isTrimmed_of_isIdentifier
        isTrimmed_of_isIdentifier
    · exact (isIdentifier_of_mem_arrowPairs hr).imp isTrimmed_of_isIdentifier
        isTrimmed_of_isIdentifier
  · intro before heading rest hlines htopic hshort hhides
    refine ⟨mem_components_of_heading hlines htopic hshort, fun htrimmed => ?_⟩
    exact (isTrimmed_trimDecoration_iff (ne_nil_of_isPlausibleName hshort)).mp htrimmed hhides

/-- Two components with decoration. The first heading hides a tab in it, the second has its
tab outside. -/
def tabbedPart : String :=
  "## Components\n### *\tOrders*\n### **Stock**\t(eu)\n- **dependency**: \t_Orders_ (new), Pay\n"

def tabbedHeading : List Char := "*\tOrders*".toList

theorem names_trimmed_unless_blank_hidden_tabbedPart :
    (extract .strict tabbedPart).components = ["\tOrders", "Stock"] ∧
    (extract .strict tabbedPart).relations.toList = [⟨"Stock", "Orders"⟩, ⟨"Stock", "Pay"⟩] ∧
    HidesBlank (dropClosingParenthetical (trim tabbedHeading)) ∧ ¬ IsTrimmed "\tOrders" ∧
    IsTrimmed "Stock" ∧ ¬ KeepsHiddenBlank tabbedPart "Stock" := by
  have hcomponents : (extract .strict tabbedPart).components = ["\tOrders", "Stock"] := by
    decide +kernel
  have hrelations : (extract .strict tabbedPart).relations.toList =
      [⟨"Stock", "Orders"⟩, ⟨"Stock", "Pay"⟩] := by
    decide +kernel
  have hlines : (lines tabbedPart.toList).map Line.classify =
      [.sectionHeading "Components".toList] ++ .subHeading tabbedHeading ::
        [.subHeading "**Stock**\t(eu)".toList,
          .plain "- **dependency**: \t_Orders_ (new), Pay".toList] := by
    decide +kernel
  have hhides : HidesBlank (dropClosingParenthetical (trim tabbedHeading)) :=
    ⟨['*'], '\t', "Orders*".toList, List.all_eq_true.mp (by decide), by decide, by decide,
      .inl (by decide +kernel)⟩
  have hstock : IsTrimmed "Stock" := by decide +kernel
  obtain ⟨hnames, -, -, hheading⟩ := names_trimmed_unless_blank_hidden .strict tabbedPart
  obtain ⟨-, horders⟩ :=
    hheading _ tabbedHeading _ hlines (by decide +kernel) (by decide +kernel) hhides
  refine ⟨hcomponents, hrelations, hhides, horders, hstock, ?_⟩
  exact (hnames "Stock" (by rw [hcomponents]; decide)).mp hstock

/-- The name of the component begins with the tab that its heading hides. -/
theorem tabbed_heading_gives_untrimmed_name :
    (extract .strict "## Components\n### *\tOrders*\n").components = ["\tOrders"] ∧
    trimmed "\tOrders" ≠ "\tOrders" := by
  decide +kernel

end Graph

end DesignGraph
