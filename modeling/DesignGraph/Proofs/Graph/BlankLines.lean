import DesignGraph.Proofs.Document.ArrowPairs
import DesignGraph.Proofs.Document.History
import DesignGraph.Proofs.Document.LineEnd
import DesignGraph.Proofs.Graph.Extract

/-!
# Blank lines

A blank line says nothing and only ends a relation table. The next line does that as well
unless it is a row, so a blank line more or less counts only between a relation table and a
row that would continue it. Arrows look across blank lines in both directions.
-/
namespace DesignGraph

open Document

namespace Document

open Text

theorem headingText?_of_not_mem {level : Nat} {raw : List Char} (hl : level ≠ 0) (h : '#' ∉ raw) :
    headingText? level raw = none := by
  rw [headingText?]
  split
  · rename_i c rest hp
    obtain rfl := List.isPrefixOf?_eq_some_iff_append_eq.mp hp
    exact absurd (List.mem_append_left _ (List.mem_replicate.mpr ⟨hl, rfl⟩)) h
  · rfl

section BlankLine

variable {blanks : List Char} (h : ∀ c ∈ blanks, isBlank c = true)
include h

theorem classify_of_blank : Line.classify blanks = .plain blanks := by
  have hsign : '#' ∉ blanks := fun hm => absurd (h '#' hm) (by decide)
  rw [Line.classify, headingText?_of_not_mem (by decide) hsign,
    headingText?_of_not_mem (by decide) hsign, trimStart_eq_nil_iff.mpr h]
  rfl

theorem dependencyTargets_of_blank : dependencyTargets blanks = [] := by
  have hnone : dependencyValue? blanks = none := by
    rw [dependencyValue?, trimStart_eq_nil_iff.mpr h]
    rfl
  rw [dependencyTargets, hnone]

/-- A blank line gives no fact and ends a relation table. -/
theorem step_of_blank (mode : Mode) (s : State) :
    s.step mode (Line.classify blanks) = ⟨{ s with inRelationTable := false }, []⟩ := by
  have hfacts : (s.plainText blanks).facts = [] :=
    s.facts_plainText_of_no_targets (dependencyTargets_of_blank h)
  rw [classify_of_blank h]
  exact congrArg (Step.mk _) hfacts

end BlankLine

namespace State

/-- Only a row asks whether the scan is inside a relation table. -/
theorem step_of_not_row {line : Line} (h : line.tableRow? = none) (mode : Mode) (s : State) :
    ({ s with inRelationTable := false } : State).step mode line = s.step mode line := by
  cases line with
  | sectionHeading _ => rfl
  | subHeading _ => rfl
  | tableRow _ => cases h
  | plain _ => rfl

/-- After the first line it is forgotten that a relation table was left before it. -/
theorem factsOf_of_table_left {mode : Mode} {s : State} {rest : List Line}
    (h : s.inRelationTable = true → rest.head?.bind Line.tableRow? = none) :
    ({ s with inRelationTable := false } : State).factsOf mode rest = s.factsOf mode rest := by
  cases rest with
  | nil => rfl
  | cons line rest =>
    cases ht : s.inRelationTable with
    | true =>
      rw [factsOf_cons, factsOf_cons, step_of_not_row (h ht)]
    | false =>
      rw [← ht]

theorem getLast?_steps_concat (mode : Mode) (s : State) (seen : List Line) (line : Line) :
    (s.steps mode (seen ++ [line])).getLast? = some ((s.after mode seen).step mode line) := by
  rw [steps_append]
  exact List.getLast?_concat ..

end State

/-- The scan of the text ends inside a relation table. -/
def endsInRelationTable (mode : Mode) (text : List Char) : Bool :=
  (scan mode text).getLast?.any fun step => step.state.inRelationTable

/-- The first line of the text is a row of a table. -/
def beginsWithRow (text : List Char) : Bool :=
  (((lines text).map Line.classify).head?.bind Line.tableRow?).isSome

theorem endsInRelationTable_eq (mode : Mode) (text : List Char) :
    endsInRelationTable mode text =
      (State.initial.after mode ((lines text).map Line.classify)).inRelationTable := by
  rw [endsInRelationTable, scan]
  rcases List.eq_nil_or_concat ((lines text).map Line.classify) with hl | ⟨seen, line, hl⟩
  · rw [hl]
    rfl
  · rw [hl, List.concat_eq_append, State.getLast?_steps_concat, State.after_concat]
    rfl

/-- A blank line after a line feed leaves the facts as they are, unless it stands between a
relation table and a row. -/
theorem facts_insert_blanks {mode : Mode} {a b blanks : List Char}
    (hb : ∀ c ∈ blanks, isBlank c = true) (hn : '\n' ∉ blanks)
    (h : endsInRelationTable mode (a ++ ['\n']) = true → beginsWithRow b = false) :
    facts mode (a ++ '\n' :: (blanks ++ '\n' :: b)) = facts mode (a ++ '\n' :: b) := by
  have hline : ∀ c ∈ dropReturn blanks, isBlank c = true := fun c hc =>
    hb c (mem_of_mem_dropReturn hc)
  rw [facts_append_newline, facts_append_newline, lines_line hn, List.map_cons, State.factsOf_cons,
    step_of_blank hline, List.nil_append, State.factsOf_of_table_left]
  rw [← endsInRelationTable_eq]
  intro ht
  simpa [beginsWithRow] using h ht

end Document

namespace Graph

/-- A blank line between two parts of a document leaves the graph as it is in either mode,
unless the first part ends inside a relation table and the second begins with a row. -/
theorem extract_insert_blank_line (mode : Mode) (a b blanks : String)
    (hb : ∀ c ∈ blanks.toList, Text.isBlank c = true) (hn : '\n' ∉ blanks.toList)
    (h : endsInRelationTable mode (a ++ "\n").toList = true → beginsWithRow b.toList = false) :
    extract mode (a ++ "\n" ++ blanks ++ "\n" ++ b) = extract mode (a ++ "\n" ++ b) := by
  have hlong : (a ++ "\n" ++ blanks ++ "\n" ++ b).toList =
      a.toList ++ '\n' :: (blanks.toList ++ '\n' :: b.toList) := by
    simp [String.toList_append]
  have hend : (a ++ "\n").toList = a.toList ++ ['\n'] := by
    simp [String.toList_append]
  rw [hend] at h
  have hfacts := facts_insert_blanks hb hn h
  have harrows := arrowPairsAfter_insert_blanks hb [] a.toList b.toList
  rw [← hlong, ← Text.toList_append_newline] at hfacts harrows
  rw [extract, extract, hfacts, arrowPairs, arrowPairs, harrows]

/-- It ends inside a relation table and in an arrow without a target. -/
def tablePart : String :=
  "## Entities\n### E\n| relation | target |\n| r | T | U ->"

def namePart : String := "V\n| s | W |"

theorem extract_tablePart_namePart :
    (∀ c ∈ " \t\r".toList, Text.isBlank c = true) ∧ '\n' ∉ " \t\r".toList ∧
    endsInRelationTable .strict (tablePart ++ "\n").toList = true ∧
    beginsWithRow namePart.toList = false ∧
    extract .strict (tablePart ++ "\n" ++ " \t\r" ++ "\n" ++ namePart) =
      extract .strict (tablePart ++ "\n" ++ namePart) ∧
    (extract .strict (tablePart ++ "\n" ++ namePart)).relations.toList =
      [⟨"E", "T"⟩, ⟨"U", "V"⟩] := by
  have hb : ∀ c ∈ " \t\r".toList, Text.isBlank c = true := List.all_eq_true.mp (by decide)
  have hrow : beginsWithRow namePart.toList = false := by decide
  refine ⟨hb, by decide, by decide +kernel, hrow, ?_, by decide +kernel⟩
  exact extract_insert_blank_line .strict tablePart namePart " \t\r" hb (by decide) fun _ => hrow

/-- Where a row follows, a blank line ends the relation table before it. -/
example : extract .relaxed "### E\n| relation | target |\n\n| s | W |" ≠
    extract .relaxed "### E\n| relation | target |\n| s | W |" := by
  decide +kernel

end Graph

end DesignGraph
