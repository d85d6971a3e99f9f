import DesignGraph.Dot.Quote
import DesignGraph.Proofs.Document.Names
import DesignGraph.Proofs.Graph.Extract
import Mathlib.Data.List.Nodup

/-!
# Extracted graphs are well formed

The names of a graph of a document are of their kinds and stand there once each. Entities
and fields are identifiers, in which no mark of the drawing language occurs, so a drawing
writes them as they are.
-/
namespace DesignGraph

open Document Text

/-! ## Identifiers in a drawing -/

namespace Dot

theorem escapeRecord_of_isIdentifier {text : List Char} (h : IsIdentifier text) :
    escapeRecord text = text := by
  have hchar : ∀ c ∈ text, escapeRecordChar c = [c] := by
    intro c hc
    rw [escapeRecordChar, if_neg]
    intro hmark
    simp only [isRecordMark, Bool.or_eq_true, beq_iff_eq] at hmark
    have hword := h.2 c hc
    rcases hmark with (((((rfl | rfl) | rfl) | rfl) | rfl) | rfl) | rfl
    all_goals
      revert hword
      decide
  rw [escapeRecord, List.flatMap_congr hchar, List.flatMap_singleton']

/-- Nothing is added to an identifier but the two quotes around it. -/
theorem quote_of_isIdentifier {text : List Char} (h : IsIdentifier text) :
    quote text = '"' :: (text ++ ['"']) := by
  have hchar : ∀ c ∈ text, quoteChar c = [c] := by
    intro c hc
    have hquote : c ≠ '"' := fun e => h.not_mem (by decide) (e ▸ hc)
    have hbackslash : c ≠ '\\' := fun e => h.not_mem (by decide) (e ▸ hc)
    have hfeed : c ≠ '\n' := fun e => h.not_mem (by decide) (e ▸ hc)
    rw [quoteChar, if_neg (not_or.mpr ⟨hquote, hbackslash⟩), if_neg hfeed]
  rw [quote, List.flatMap_congr hchar, List.flatMap_singleton', List.cons_append]

end Dot

/-! ## Entities -/

namespace EntityTable

/-- An entity of the table is found by its name. -/
theorem fields?_of_mem {t : EntityTable} {e : Entity} (h : e ∈ t.toList) :
    t.fields? e.name = some e.fields := by
  obtain ⟨found, hfound⟩ := Option.isSome_iff_exists.mp
    (List.find?_isSome.mpr ⟨e, h, beq_self_eq_true e.name⟩ :
      (t.toList.find? fun other => other.name == e.name).isSome)
  have hname : found.name = e.name := by simpa using List.find?_some hfound
  have heq : found = e :=
    List.inj_on_of_nodup_map t.distinct (List.mem_of_find?_eq_some hfound) h hname
  rw [fields?, hfound, heq]
  rfl

theorem mem_facts_of_mem_fieldsSince {name field : String} {facts : List Fact}
    (h : field ∈ fieldsSince name facts) : .field name field ∈ facts := by
  obtain ⟨fact, hfact, hfield⟩ := List.mem_filterMap.mp h
  have hmem : fact ∈ facts := (List.rtakeWhile_suffix _ _).subset hfact
  cases fact with
  | field owner given =>
    rw [Fact.fieldOf?] at hfield
    split at hfield
    · rename_i howner
      obtain rfl := Option.some.inj hfield
      exact howner ▸ hmem
    · cases hfield
  | component _ => cases hfield
  | entity _ => cases hfield
  | dependency _ => cases hfield
  | tableRelation _ => cases hfield

end EntityTable

namespace Graph

/-- A graph with names of the right kinds, each component, entity and relation once. -/
structure WellFormed (g : Graph) : Prop where
  distinctComponents : g.components.Nodup
  components : ∀ name ∈ g.components, IsComponentName name
  distinctEntities : g.entities.names.Nodup
  entities : ∀ name ∈ g.entities.names, IsEntityName name
  fields : ∀ e ∈ g.entities.toList, ∀ field ∈ e.fields, IsFieldName field
  distinctRelations : g.relations.toList.Nodup
  relations : ∀ r ∈ g.relations.toList, IsLabel r.source ∧ IsLabel r.target

variable {mode : Mode} {text : String}

theorem mem_components_extract {name : String} (h : name ∈ (extract mode text).components) :
    .component name ∈ facts mode text.toList := by
  rw [components_extract, List.mem_eraseDups, List.mem_filterMap] at h
  obtain ⟨fact, hfact, hname⟩ := h
  cases fact <;> simp_all [Fact.componentName?]

/-- A field of an entity of the graph is one that a fact gives to it. -/
theorem mem_fields_extract {e : Entity} {field : String}
    (he : e ∈ (extract mode text).entities.toList) (hf : field ∈ e.fields) :
    .field e.name field ∈ facts mode text.toList := by
  have hfields : (extract mode text).fields? e.name = some e.fields :=
    EntityTable.fields?_of_mem he
  rw [fields?_extract] at hfields
  split at hfields
  · rw [← Option.some.inj hfields] at hf
    exact EntityTable.mem_facts_of_mem_fieldsSince hf
  · cases hfields

theorem wellFormed_extract (mode : Mode) (text : String) : (extract mode text).WellFormed where
  distinctComponents := by
    rw [components_extract]
    exact FirstSeen.nodup_eraseDups _
  components _ h := facts_wellNamed (mem_components_extract h)
  distinctEntities := (extract mode text).entities.distinct
  entities _ h := facts_wellNamed (mem_names_extract.mp h)
  fields _ he _ hf := facts_wellNamed (mem_fields_extract he hf)
  distinctRelations := (extract mode text).relations.nodup
  relations r hr := by
    rcases mem_relations_extract.mp hr with h | h | h
    · exact facts_wellNamed h
    · exact facts_wellNamed h
    · exact isLabel_of_mem_arrowPairs h

/-- The graph of any text, in either mode, is well formed. So a drawing escapes nothing in the
names of its entities and in their fields, and a quoted name of an entity is the name
between two quotes. -/
theorem extract_wellFormed_and_plain (mode : Mode) (text : String) :
    (extract mode text).WellFormed ∧
    ∀ e ∈ (extract mode text).entities.toList,
      Dot.escapeRecord e.name.toList = e.name.toList ∧
      Dot.quote e.name.toList = '"' :: (e.name.toList ++ ['"']) ∧
      ∀ field ∈ e.fields, Dot.escapeRecord field.toList = field.toList := by
  have hgraph := wellFormed_extract mode text
  refine ⟨hgraph, fun e he => ?_⟩
  have hname : IsIdentifier e.name.toList := (hgraph.entities e.name (List.mem_map_of_mem he)).1
  refine ⟨Dot.escapeRecord_of_isIdentifier hname, Dot.quote_of_isIdentifier hname, ?_⟩
  intro field hf
  exact Dot.escapeRecord_of_isIdentifier (hgraph.fields e he field hf).1

/-- Names that a drawing would escape, but for the names that are kept: a heading goes on
with a quoted alias, and only one of the rows holds an identifier. -/
def aliasPart : String :=
  "## Entities\n### Order \"orders|<all>\"\n| id |\n| \"a\" |\n| Name |\n"

theorem extract_aliasPart :
    (extract .strict aliasPart).entities.toList = [⟨"Order", ["id"]⟩] ∧
    Dot.quote "Order".toList = "\"Order\"".toList ∧
    Dot.escapeRecord "id".toList = "id".toList := by
  have hentities : (extract .strict aliasPart).entities.toList = [⟨"Order", ["id"]⟩] := by
    decide +kernel
  have hmem : (⟨"Order", ["id"]⟩ : Entity) ∈ (extract .strict aliasPart).entities.toList := by
    rw [hentities]
    exact List.mem_singleton_self _
  obtain ⟨-, hquote, hfields⟩ :=
    (extract_wellFormed_and_plain .strict aliasPart).2 ⟨"Order", ["id"]⟩ hmem
  exact ⟨hentities, hquote, hfields "id" (List.mem_singleton_self _)⟩

end Graph

end DesignGraph
