import DesignGraph.Document.Table
import DesignGraph.Proofs.Text.Identifiers
import DesignGraph.Proofs.Text.Pieces
import Mathlib.Data.List.Basic

/-!
# What a table row is read as

A row has cells if a second bar follows its first character, and the cells then are all that
stands between two of its bars. Both directions are told here: each way to write a row with
its cells, and that no row has cells in any other way. Of the cells, the first names a field
and the second a target, each under a condition that is told exactly.
-/
namespace DesignGraph.Document

open Text

/-- A row as it is written: blanks, a bar, cells with a bar between any two, a bar, and what
follows that. -/
structure ClosedRow where
  blanks : List Char
  cells : List (List Char)
  tail : List Char
  isBlank_of_mem : ∀ c ∈ blanks, isBlank c = true
  cells_ne_nil : cells ≠ []
  bar_not_mem : ∀ cell ∈ cells, '|' ∉ cell
  bar_not_mem_tail : '|' ∉ tail

def ClosedRow.text (row : ClosedRow) : List Char :=
  row.blanks ++ '|' :: (['|'].intercalate row.cells ++ '|' :: row.tail)

/-! ## Cells -/

theorem trimStart_blanks_bar {blanks : List Char} (h : ∀ c ∈ blanks, isBlank c = true)
    (rest : List Char) : trimStart (blanks ++ '|' :: rest) = '|' :: rest := by
  rw [trimStart, List.dropWhile_append_of_pos h]
  exact trimStart_cons_of_neg rest (by decide)

/-- What stands between the bars of a row are its cells. -/
theorem tableCells_text (row : ClosedRow) : tableCells row.text = row.cells := by
  unfold tableCells
  rw [ClosedRow.text, trimStart_blanks_bar row.isBlank_of_mem]
  show (pieces '|' (['|'].intercalate row.cells ++ '|' :: row.tail)).dropLast = row.cells
  rw [dropLast_pieces row.bar_not_mem_tail, pieces_intercalate row.cells_ne_nil row.bar_not_mem]

/-- A row with a second bar can be written from its cells. -/
theorem exists_closedRow {blanks rest : List Char} (hblanks : ∀ c ∈ blanks, isBlank c = true)
    (hbar : '|' ∈ rest) : ∃ row : ClosedRow, row.text = blanks ++ '|' :: rest := by
  obtain ⟨body, tail, rfl, htail⟩ := exists_last_separator hbar
  let row : ClosedRow :=
    { blanks, cells := pieces '|' body, tail
      isBlank_of_mem := hblanks
      cells_ne_nil := pieces_ne_nil '|' body
      bar_not_mem := fun _ hm => not_mem_of_mem_pieces hm
      bar_not_mem_tail := htail }
  refine ⟨row, ?_⟩
  show blanks ++ '|' :: (['|'].intercalate (pieces '|' body) ++ '|' :: tail) = _
  rw [intercalate_pieces]

theorem exists_closedRow_iff {text : List Char} :
    (∃ row : ClosedRow, row.text = text) ↔
      ∃ blanks rest, (∀ c ∈ blanks, isBlank c = true) ∧ text = blanks ++ '|' :: rest ∧
        '|' ∈ rest := by
  constructor
  · rintro ⟨row, rfl⟩
    exact ⟨row.blanks, _, row.isBlank_of_mem, rfl, by simp⟩
  · rintro ⟨blanks, rest, hblanks, rfl, hbar⟩
    exact exists_closedRow hblanks hbar

/-- A row that has any cells is written so. -/
theorem exists_closedRow_of_tableCells {text : List Char} (h : tableCells text ≠ []) :
    ∃ row : ClosedRow, row.text = text := by
  unfold tableCells at h
  split at h
  · rename_i body hstart
    have hbar : '|' ∈ body := by
      by_contra hbar
      rw [pieces_of_not_mem hbar] at h
      exact h rfl
    have htext : text.takeWhile isBlank ++ '|' :: body = text := by
      rw [← hstart]
      exact List.takeWhile_append_dropWhile
    rw [← htext]
    exact exists_closedRow (fun _ hm => List.mem_takeWhile_imp hm) hbar
  · exact absurd rfl h

/-! ## Identifiers in cells -/

/-- The cell holds nothing but the name, with blanks around it and on either side at most one
code quote. -/
def HoldsName (cell name : List Char) : Prop :=
  IsIdentifier name ∧ ∃ opening ∈ [[], [codeQuote]], ∃ closing ∈ [[], [codeQuote]],
    trim cell = opening ++ (name ++ closing)

theorem isWord_codeQuote : isWord codeQuote = false := by decide

theorem exists_dropOpeningQuote (text : List Char) :
    ∃ opening ∈ [[], [codeQuote]], text = opening ++ dropOpeningQuote text := by
  cases text with
  | nil => exact ⟨[], List.mem_cons_self, rfl⟩
  | cons c rest =>
    by_cases hc : c = codeQuote
    · exact ⟨[codeQuote], by simp, by rw [dropOpeningQuote, if_pos hc, hc]; rfl⟩
    · exact ⟨[], List.mem_cons_self, by rw [dropOpeningQuote, if_neg hc]; rfl⟩

theorem exists_dropClosingQuote (text : List Char) :
    ∃ closing ∈ [[], [codeQuote]], text = dropClosingQuote text ++ closing := by
  by_cases h : text.getLast? = some codeQuote
  · refine ⟨[codeQuote], by simp, ?_⟩
    rw [dropClosingQuote, if_pos h]
    exact (List.dropLast_append_getLast? codeQuote h).symm
  · exact ⟨[], List.mem_cons_self, by rw [dropClosingQuote, if_neg h, List.append_nil]⟩

section Quotes

variable {name : List Char} (hname : IsIdentifier name)
include hname

theorem dropOpeningQuote_append {opening : List Char} (h : opening ∈ [[], [codeQuote]])
    (closing : List Char) : dropOpeningQuote (opening ++ (name ++ closing)) = name ++ closing := by
  simp only [List.mem_cons, List.not_mem_nil, or_false] at h
  obtain ⟨c, rest, rfl⟩ := List.exists_cons_of_ne_nil hname.1
  have hc : c ≠ codeQuote := fun e => hname.not_mem isWord_codeQuote (e ▸ List.mem_cons_self)
  rcases h with rfl | rfl
  · exact if_neg hc
  · rw [List.singleton_append, dropOpeningQuote, if_pos rfl]

theorem dropClosingQuote_append {closing : List Char} (h : closing ∈ [[], [codeQuote]]) :
    dropClosingQuote (name ++ closing) = name := by
  simp only [List.mem_cons, List.not_mem_nil, or_false] at h
  rcases h with rfl | rfl
  · have hlast : name.getLast? ≠ some codeQuote := fun hl =>
      hname.not_mem isWord_codeQuote (List.mem_of_getLast? hl)
    rw [List.append_nil, dropClosingQuote, if_neg hlast]
  · rw [dropClosingQuote, if_pos (List.getLast?_concat ..), List.dropLast_concat]

end Quotes

theorem bareIdentifier?_eq_some_iff {cell name : List Char} :
    bareIdentifier? cell = some name ↔ HoldsName cell name := by
  constructor
  · intro h
    unfold bareIdentifier? at h
    obtain ⟨hname, h⟩ := Option.ite_none_right_eq_some.mp h
    obtain rfl := Option.some.inj h
    obtain ⟨opening, hopening, htext⟩ := exists_dropOpeningQuote (trim cell)
    obtain ⟨closing, hclosing, hrest⟩ := exists_dropClosingQuote (dropOpeningQuote (trim cell))
    refine ⟨isIdentifier_iff.mpr hname, opening, hopening, closing, hclosing, ?_⟩
    rw [← hrest]
    exact htext
  · rintro ⟨hname, opening, hopening, closing, hclosing, htext⟩
    rw [bareIdentifier?, htext, dropOpeningQuote_append hname hopening,
      dropClosingQuote_append hname hclosing]
    exact if_pos (isIdentifier_iff.mp hname)

/-- A cell that holds an identifier, blanks around it aside, names that. -/
theorem bareIdentifier?_of_trim {cell : List Char} (h : IsIdentifier (trim cell)) :
    bareIdentifier? cell = some (trim cell) :=
  bareIdentifier?_eq_some_iff.mpr
    ⟨h, [], List.mem_cons_self, [], List.mem_cons_self, (List.append_nil _).symm⟩

/-- The name in a cell, when it is none of those that do not count. -/
theorem filter_bareIdentifier?_eq_some_iff {cell : List Char} {p : String → Bool} {name : String} :
    ((bareIdentifier? cell).map String.ofList).filter p = some name ↔
      HoldsName cell name.toList ∧ p name = true := by
  rw [Option.filter_eq_some_iff, Option.map_eq_some_iff, ← bareIdentifier?_eq_some_iff]
  refine and_congr_left fun _ => ?_
  constructor
  · rintro ⟨text, htext, rfl⟩
    rw [String.toList_ofList]
    exact htext
  · intro h
    exact ⟨name.toList, h, String.ofList_toList⟩

/-! ## Fields and targets -/

/-- The cell rules a header off: it is not blank, and made of dashes and colons. -/
def IsRule (cell : List Char) : Prop := trim cell ≠ [] ∧ ∀ c ∈ trim cell, c = '-' ∨ c = ':'

theorem isSeparatorRow_iff {text first : List Char} {others : List (List Char)}
    (h : tableCells text = first :: others) : isSeparatorRow text = true ↔ IsRule first := by
  rw [isSeparatorRow, h, IsRule]
  simp

/-- A row rules nothing off when its first cell holds an identifier. -/
theorem isSeparatorRow_of_trim {text first : List Char} {others : List (List Char)}
    (hcells : tableCells text = first :: others) (h : IsIdentifier (trim first)) :
    isSeparatorRow text = false := by
  rw [Bool.eq_false_iff, ne_eq, isSeparatorRow_iff hcells]
  rintro ⟨-, hrule⟩
  obtain ⟨c, rest, hc⟩ := List.exists_cons_of_ne_nil h.1
  have hm : c ∈ trim first := hc ▸ List.mem_cons_self
  have hword := h.2 c hm
  revert hword
  rcases hrule c hm with rfl | rfl <;> decide

theorem fieldName?_eq_some_iff {text : List Char} {name : String} :
    fieldName? text = some name ↔ ∃ first others, tableCells text = first :: others ∧
      HoldsName first name.toList ∧ name ∉ headerTokens := by
  unfold fieldName?
  cases tableCells text with
  | nil => simp
  | cons first others =>
    show ((bareIdentifier? first).map String.ofList).filter _ = some name ↔ _
    rw [filter_bareIdentifier?_eq_some_iff]
    simp

theorem tableTarget?_eq_some_iff {text : List Char} {name : String} :
    tableTarget? text = some name ↔ ∃ first second others,
      tableCells text = first :: second :: others ∧ first ≠ [] ∧ ¬ IsRule first ∧
        HoldsName second name.toList ∧ name ≠ "대상" := by
  unfold tableTarget?
  match hcells : tableCells text with
  | [] => simp
  | [first] => simp
  | first :: second :: others =>
    have hrule := isSeparatorRow_iff hcells
    have hname : ((bareIdentifier? second).map String.ofList).filter (· != targetTitleCell) =
        some name ↔ HoldsName second name.toList ∧ name ≠ "대상" := by
      rw [filter_bareIdentifier?_eq_some_iff, bne_iff_ne]
      rfl
    by_cases hr : IsRule first
    · rw [if_pos (hrule.mpr hr)]
      simp [hr]
    · rw [if_neg (mt hrule.mp hr)]
      show (if first.isEmpty then none else _) = some name ↔ _
      by_cases hempty : first = []
      · simp [hempty]
      · rw [if_neg (by simpa using hempty), hname]
        simp [hempty, hr]

/-- Rows are read exactly. A row has the cells it is written from, it is written from cells if
after its blanks it begins with a bar and has another one, and any other row has no cells. On
a row that has, the name in the first cell is a field unless it is the word of a header, and
the name in the second cell a target unless the first cell is empty or a rule or the name is
the title of the column. -/
theorem rows_are_read_exactly :
    (∀ row : ClosedRow, tableCells row.text = row.cells) ∧
    (∀ text, (∃ row : ClosedRow, row.text = text) ↔
      ∃ blanks rest, (∀ c ∈ blanks, isBlank c = true) ∧ text = blanks ++ '|' :: rest ∧
        '|' ∈ rest) ∧
    (∀ text, tableCells text = [] ↔ ¬ ∃ row : ClosedRow, row.text = text) ∧
    ∀ row : ClosedRow,
      (∀ name, fieldName? row.text = some name ↔
        ∃ first others, row.cells = first :: others ∧ HoldsName first name.toList ∧
          name ∉ headerTokens) ∧
      ∀ name, tableTarget? row.text = some name ↔
        ∃ first second others, row.cells = first :: second :: others ∧ first ≠ [] ∧
          ¬ IsRule first ∧ HoldsName second name.toList ∧ name ≠ "대상" := by
  refine ⟨tableCells_text, fun _ => exists_closedRow_iff, fun text => ?_, fun row => ⟨?_, ?_⟩⟩
  · constructor
    · rintro hnil ⟨row, rfl⟩
      rw [tableCells_text] at hnil
      exact row.cells_ne_nil hnil
    · intro hnone
      by_contra hcells
      exact hnone (exists_closedRow_of_tableCells hcells)
  · intro name
    rw [fieldName?_eq_some_iff, tableCells_text]
  · intro name
    rw [tableTarget?_eq_some_iff, tableCells_text]

end DesignGraph.Document
