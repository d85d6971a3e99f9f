import DesignGraph.Proofs.Document.ArrowPairs
import DesignGraph.Proofs.Document.LineEnd
import DesignGraph.Proofs.Graph.Extract

/-!
# Sections are independent in strict mode

A section heading wipes out all that a strict scan remembers, and no arrow reaches over
its number signs. So the graph of a document that is cut before a section heading is put
together from the graphs of the two parts.
-/
namespace DesignGraph

open Document

namespace Text

theorem eq_cons_of_lines_eq_cons {text line : List Char} {c : Char} {more : List (List Char)}
    (h : lines text = (c :: line) :: more) : ∃ rest, text = c :: rest := by
  unfold lines at h
  split at h
  · cases h
  · cases h
  · cases h
  · rename_i d rest _ _
    split at h <;> cases h
    · exact ⟨_, rfl⟩
    · exact ⟨_, rfl⟩

end Text

namespace Document

theorem headingText?_of_classify_eq_section {raw title : List Char}
    (h : Line.classify raw = .sectionHeading title) : headingText? 2 raw = some title := by
  rw [Line.classify] at h
  split at h
  · rename_i text ht
    cases h
    exact ht
  · split at h
    · cases h
    · split at h <;> cases h

/-- A text whose first line is a section heading starts with a number sign. -/
theorem eq_cons_of_head_section {text title : List Char}
    (h : ((Text.lines text).map Line.classify).head? = some (.sectionHeading title)) :
    ∃ rest, text = '#' :: rest := by
  cases hl : Text.lines text with
  | nil => simp [hl] at h
  | cons raw more =>
    have hc : Line.classify raw = .sectionHeading title := by simpa [hl] using h
    have ht := headingText?_of_classify_eq_section hc
    rw [headingText?] at ht
    split at ht
    · rename_i d rest hp
      obtain rfl := List.isPrefixOf?_eq_some_iff_append_eq.mp hp
      exact Text.eq_cons_of_lines_eq_cons hl
    · cases ht

/-- In strict mode the state after a section heading depends on nothing before it. -/
theorem State.factsOf_section (s : State) (title : List Char) (rest : List Line) :
    s.factsOf .strict (.sectionHeading title :: rest) =
      initial.factsOf .strict (.sectionHeading title :: rest) := by
  rw [factsOf_cons, factsOf_cons]
  rfl

/-- In strict mode a text contributes the facts of its parts when it is cut before a
section heading. -/
theorem facts_append_section {b title : List Char} (a : List Char)
    (h : ((Text.lines b).map Line.classify).head? = some (.sectionHeading title)) :
    facts .strict (a ++ '\n' :: b) = facts .strict a ++ facts .strict b := by
  obtain ⟨rest, hrest⟩ := List.head?_eq_some_iff.mp h
  rw [facts_eq_factsOf, facts_eq_factsOf, facts_eq_factsOf, Text.lines_append_newline,
    List.map_append, State.factsOf_append, factsOf_lines_append_newline, hrest,
    State.factsOf_section]

end Document

namespace Graph

/-- Nothing is given to an entity that no fact of the text declares. -/
theorem fieldsSince_facts_eq_nil {mode : Mode} {text : List Char} {name : String}
    (h : .entity name ∉ facts mode text) : EntityTable.fieldsSince name (facts mode text) = [] := by
  rw [EntityTable.fieldsSince, List.filterMap_eq_nil_iff]
  intro fact hm
  cases hf : fact.fieldOf? name with
  | none => rfl
  | some field =>
    have hmem : fact ∈ facts mode text := (List.rtakeWhile_suffix _ _).subset hm
    rcases (facts_owned mode text).declared_of_mem hmem (Fact.owner?_of_fieldOf? hf) with ho | ho
    · cases ho
    · exact absurd ho h

/-- Cut before a section heading, a document has in strict mode the components and entities
of its first part and then those of the second that are new, the fields that the second
part gives to its entities and otherwise those of the first, and the relations of both. -/
theorem extract_append_section (a b : String) (title : List Char)
    (hb : ((Text.lines b.toList).map Line.classify).head? = some (.sectionHeading title)) :
    (extract .strict (a ++ "\n" ++ b)).components = (extract .strict a).components ++
      (extract .strict b).components.filter (· ∉ (extract .strict a).components) ∧
    (extract .strict (a ++ "\n" ++ b)).entities.names = (extract .strict a).entities.names ++
      (extract .strict b).entities.names.filter (· ∉ (extract .strict a).entities.names) ∧
    (∀ entity, (extract .strict (a ++ "\n" ++ b)).fields? entity =
      if (extract .strict b).isEntity entity then (extract .strict b).fields? entity
      else (extract .strict a).fields? entity) ∧
    ∀ r, r ∈ (extract .strict (a ++ "\n" ++ b)).relations ↔
      r ∈ (extract .strict a).relations ∨ r ∈ (extract .strict b).relations := by
  have htext : (a ++ "\n" ++ b).toList = a.toList ++ '\n' :: b.toList := by
    simp [String.toList_append]
  have hfacts := facts_append_section a.toList hb
  rw [← htext] at hfacts
  have harrows : arrowPairs (a ++ "\n" ++ b).toList = arrowPairs a.toList ++ arrowPairs b.toList := by
    obtain ⟨rest, hrest⟩ := eq_cons_of_head_section hb
    rw [htext, hrest]
    exact arrowPairs_append_newline rfl (by decide) rfl a.toList
  refine ⟨?_, ?_, ?_, ?_⟩
  · rw [components_extract, hfacts, List.filterMap_append, FirstSeen.eraseDups_append_eq_filter]
    rfl
  · rw [names_extract, hfacts, List.filterMap_append, FirstSeen.eraseDups_append_eq_filter,
      ← names_extract, ← names_extract]
  · intro entity
    change ((facts .strict (a ++ "\n" ++ b).toList).foldl EntityTable.record .empty).fields? entity = _
    rw [hfacts, List.foldl_append, EntityTable.fields?_foldl_record]
    by_cases he : .entity entity ∈ facts .strict b.toList
    · rw [if_pos he, if_pos (isEntity_extract.mpr he), fields?_extract, if_pos he]
    · rw [if_neg he, if_neg (mt isEntity_extract.mp he), fieldsSince_facts_eq_nil he]
      simp only [List.append_nil, Option.map_id']
      rfl
  · intro r
    rw [mem_relations_extract, mem_relations_extract, mem_relations_extract, hfacts, harrows]
    simp only [List.mem_append]
    -- from the three kinds, each in both parts, to the two parts, each with three kinds
    exact (or_congr_right or_or_or_comm).trans or_or_or_comm

/-- It ends in a row of a relation table, an unfinished arrow and a carriage return. -/
def draftPart : String :=
  "## Components\n### A\n- **dependency**: B\n## Entities\n### E\n| f |\n" ++
    "| relation | target |\n| r | T | E ->\r"

def revisedPart : String := "## Entities\n| x |\n### E\n| g |\n### F\nU ->\n T"

theorem extract_append_draftPart :
    ((Text.lines revisedPart.toList).map Line.classify).head? =
      some (.sectionHeading "Entities".toList) ∧
    (extract .strict (draftPart ++ "\n" ++ revisedPart)).components = ["A"] ∧
    (extract .strict (draftPart ++ "\n" ++ revisedPart)).entities.names = ["E", "F"] ∧
    (extract .strict (draftPart ++ "\n" ++ revisedPart)).fields? "E" = some ["g"] ∧
    ∀ r, r ∈ (extract .strict (draftPart ++ "\n" ++ revisedPart)).relations ↔
      r = ⟨"A", "B"⟩ ∨ r = ⟨"E", "T"⟩ ∨ r = ⟨"U", "T"⟩ := by
  have hb : ((Text.lines revisedPart.toList).map Line.classify).head? =
      some (.sectionHeading "Entities".toList) := by decide +kernel
  have hdraft : extract .strict draftPart = ⟨["A"], ⟨[⟨"E", ["f", "r"]⟩], by decide⟩,
      ⟨[⟨"A", "B"⟩, ⟨"E", "T"⟩], by decide⟩⟩ := by decide +kernel
  have hrevised : extract .strict revisedPart = ⟨[], ⟨[⟨"E", ["g"]⟩, ⟨"F", []⟩], by decide⟩,
      ⟨[⟨"U", "T"⟩], by decide⟩⟩ := by decide +kernel
  obtain ⟨hcomponents, hnames, hfields, hrelations⟩ :=
    extract_append_section draftPart revisedPart "Entities".toList hb
  rw [hdraft, hrevised] at hcomponents hnames
  refine ⟨hb, hcomponents, hnames, ?_, ?_⟩
  · rw [hfields, hdraft, hrevised]
    rfl
  · intro r
    rw [hrelations, hdraft, hrevised]
    change r ∈ [_, _] ∨ r ∈ [_] ↔ _
    rw [List.mem_pair, List.mem_singleton, or_assoc]

end Graph

end DesignGraph
