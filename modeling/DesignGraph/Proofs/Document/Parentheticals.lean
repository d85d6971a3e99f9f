import DesignGraph.Proofs.Document.Printed
import DesignGraph.Proofs.Text.Trimming

/-!
# Parentheticals in a list

A list is cut at the commas outside of parentheses, and its parentheticals are dropped. The
two go by the same depth at every character, whether the parentheses match or not, so it does
not matter which is done first. What is left of a list stands at the positions outside of
parentheses, and each name of a dependency item at consecutive ones of these.
-/
namespace DesignGraph.Document

open Text

/-! ## One depth for both -/

/-- A character is dropped where a parenthesis is open, and when it opens one; the depth goes
on as it does for the commas. -/
theorem dropParentheticals_cons (depth : Nat) (c : Char) (rest : List Char) :
    dropParentheticals depth (c :: rest) =
      (if depth = 0 ∧ c ≠ '(' then [c] else []) ++
        dropParentheticals (depthAfter depth c) rest := by
  rw [dropParentheticals.eq_def, depthAfter]
  by_cases hopen : c = '('
  · simp [hopen]
  · cases depth with
    | zero => simp [hopen]
    | succ outer => by_cases hclose : c = ')' <;> simp [hopen, hclose]

theorem splitTopLevel_comma (rest : List Char) :
    splitTopLevel 0 (',' :: rest) = [] :: splitTopLevel 0 rest := rfl

theorem exists_splitTopLevel (depth : Nat) (text : List Char) :
    ∃ piece more, splitTopLevel depth text = piece :: more := by
  cases text with
  | nil => exact ⟨[], [], rfl⟩
  | cons c rest =>
    rw [splitTopLevel]
    split
    · exact ⟨_, _, rfl⟩
    · split <;> exact ⟨_, _, rfl⟩

/-- A character that is no comma outside of parentheses belongs to the first piece. -/
theorem splitTopLevel_cons {depth : Nat} {c : Char} (hc : ¬ (c = ',' ∧ depth = 0))
    {rest piece : List Char} {more : List (List Char)}
    (h : splitTopLevel (depthAfter depth c) rest = piece :: more) :
    splitTopLevel depth (c :: rest) = (c :: piece) :: more := by
  rw [splitTopLevel, if_neg hc, h]

/-- Nothing is lost: the pieces with commas between them are the text. -/
theorem intercalate_splitTopLevel (depth : Nat) (text : List Char) :
    [','].intercalate (splitTopLevel depth text) = text := by
  induction text generalizing depth with
  | nil => rfl
  | cons c rest ih =>
    by_cases hc : c = ',' ∧ depth = 0
    · obtain ⟨rfl, rfl⟩ := hc
      obtain ⟨piece, more, hsplit⟩ := exists_splitTopLevel 0 rest
      have hrest := ih 0
      rw [splitTopLevel_comma, hsplit, List.intercalate_cons_cons, ← hsplit, hrest]
      rfl
    · obtain ⟨piece, more, hsplit⟩ := exists_splitTopLevel (depthAfter depth c) rest
      have hrest := ih (depthAfter depth c)
      rw [hsplit] at hrest
      rw [splitTopLevel_cons hc hsplit]
      cases more with
      | nil => simpa using hrest
      | cons next others =>
        rw [List.intercalate_cons_cons] at hrest ⊢
        rw [← hrest]
        rfl

/-- The first piece is dropped from at the depth at which the text begins, the others at the
depth after a comma. -/
theorem pieces_dropParentheticals {depth : Nat} {text piece : List Char} {more : List (List Char)}
    (h : splitTopLevel depth text = piece :: more) :
    pieces ',' (dropParentheticals depth text) =
      dropParentheticals depth piece :: more.map (dropParentheticals 0) := by
  induction text generalizing depth piece more with
  | nil =>
    cases h
    rfl
  | cons c rest ih =>
    by_cases hc : c = ',' ∧ depth = 0
    · obtain ⟨rfl, rfl⟩ := hc
      obtain ⟨next, others, hsplit⟩ := exists_splitTopLevel 0 rest
      rw [splitTopLevel_comma, hsplit] at h
      cases h
      have hkept : dropParentheticals 0 (',' :: rest) = ',' :: dropParentheticals 0 rest := rfl
      rw [hkept, pieces, if_pos rfl, ih hsplit]
      rfl
    · obtain ⟨next, others, hsplit⟩ := exists_splitTopLevel (depthAfter depth c) rest
      rw [splitTopLevel_cons hc hsplit] at h
      cases h
      rw [dropParentheticals_cons, dropParentheticals_cons]
      by_cases hkept : depth = 0 ∧ c ≠ '('
      · have hcomma : c ≠ ',' := fun he => hc ⟨he, hkept.1⟩
        rw [if_pos hkept]
        exact pieces_cons_of_ne hcomma (ih hsplit)
      · rw [if_neg hkept]
        exact ih hsplit

theorem map_dropParentheticals_splitTopLevel (text : List Char) :
    (splitTopLevel 0 text).map (dropParentheticals 0) = pieces ',' (dropParentheticals 0 text) := by
  obtain ⟨piece, more, hsplit⟩ := exists_splitTopLevel 0 text
  rw [pieces_dropParentheticals hsplit, hsplit, List.map_cons]

theorem not_mem_dropParentheticals (depth : Nat) (text : List Char) :
    '(' ∉ dropParentheticals depth text := by
  induction text generalizing depth with
  | nil => exact List.not_mem_nil
  | cons c rest ih =>
    rw [dropParentheticals_cons, List.mem_append, not_or]
    refine ⟨?_, ih _⟩
    split
    · rename_i hkept
      rw [List.mem_singleton]
      exact hkept.2.symm
    · exact List.not_mem_nil

/-! ## Positions outside of parentheses -/

/-- How many parentheses are open at a position, when some are open before the text. -/
def depthAt (depth : Nat) (text : List Char) (position : Nat) : Nat :=
  (text.take position).foldl depthAfter depth

/-- The positions at which no parenthesis is open and none is opened. -/
def outsidePositions (depth : Nat) (text : List Char) : List Nat :=
  (List.range text.length).filter fun i => depthAt depth text i = 0 ∧ text[i]? ≠ some '('

theorem outsidePositions_cons (depth : Nat) (c : Char) (rest : List Char) :
    outsidePositions depth (c :: rest) =
      (if depth = 0 ∧ c ≠ '(' then [0] else []) ++
        (outsidePositions (depthAfter depth c) rest).map Nat.succ := by
  have htail : ((List.range rest.length).map Nat.succ).filter (fun i =>
      decide (depthAt depth (c :: rest) i = 0 ∧ (c :: rest)[i]? ≠ some '(')) =
        (outsidePositions (depthAfter depth c) rest).map Nat.succ := by
    rw [List.filter_map]
    rfl
  have hhead : (depthAt depth (c :: rest) 0 = 0 ∧ (c :: rest)[0]? ≠ some '(') ↔
      depth = 0 ∧ c ≠ '(' := by
    simp [depthAt]
  rw [outsidePositions, List.length_cons, List.range_succ_eq_map, List.filter_cons, htail]
  simp only [decide_eq_true_eq, hhead]
  split <;> rfl

/-- What is left of a text without its parentheticals is what stands at these positions. -/
theorem map_outsidePositions (depth : Nat) (text : List Char) :
    (outsidePositions depth text).map (text[·]?) = (dropParentheticals depth text).map some := by
  induction text generalizing depth with
  | nil => rfl
  | cons c rest ih =>
    have hrest : ((outsidePositions (depthAfter depth c) rest).map Nat.succ).map
        ((c :: rest)[·]?) = (dropParentheticals (depthAfter depth c) rest).map some := by
      rw [← ih, List.map_map]
      rfl
    rw [outsidePositions_cons, dropParentheticals_cons, List.map_append, List.map_append, hrest]
    split <;> rfl

/-- A run of what is left stands at consecutive ones of these positions. -/
theorem exists_positions {depth : Nat} {text run : List Char}
    (h : run <:+: dropParentheticals depth text) :
    ∃ positions, positions <:+: outsidePositions depth text ∧
      positions.map (text[·]?) = run.map some := by
  have hmap : run.map some <:+: (outsidePositions depth text).map (text[·]?) := by
    rw [map_outsidePositions]
    exact h.map some
  obtain ⟨positions, hrun, heq⟩ := List.infix_map_iff.mp hmap
  exact ⟨positions, hrun, heq.symm⟩

/-! ## The names of a dependency item -/

section Targets

variable {line value : List Char} (h : dependencyValue? line = some value)
include h

/-- The names are those between the commas that are left without the parentheticals. -/
theorem dependencyTargets_eq_pieces (hs : saysNone value = false) :
    dependencyTargets line = (((pieces ',' (dropParentheticals 0 value)).map fun piece =>
      trimDecoration (trim piece)).filter fun name => !saysNone name).map String.ofList := by
  have hmap : (splitTopLevel 0 value).map pieceName =
      (pieces ',' (dropParentheticals 0 value)).map fun piece => trimDecoration (trim piece) := by
    rw [← map_dropParentheticals_splitTopLevel, List.map_map]
    rfl
  rw [dependencyTargets_of_value h hs, hmap]

theorem exists_piece_of_mem_dependencyTargets {target : String}
    (ht : target ∈ dependencyTargets line) :
    saysNone target.toList = false ∧ ∃ piece ∈ pieces ',' (dropParentheticals 0 value),
      target.toList = trimDecoration (trim piece) := by
  cases hs : saysNone value with
  | true =>
    rw [dependencyTargets, h] at ht
    simp only [hs, ↓reduceIte, List.not_mem_nil] at ht
  | false =>
    rw [dependencyTargets_eq_pieces h hs] at ht
    obtain ⟨name, hname, rfl⟩ := List.mem_map.mp ht
    obtain ⟨hpiece, hsentinel⟩ := List.mem_filter.mp hname
    obtain ⟨piece, hmem, rfl⟩ := List.mem_map.mp hpiece
    rw [String.toList_ofList]
    exact ⟨by simpa using hsentinel, piece, hmem, rfl⟩

end Targets

/-- It does not matter whether a list is cut at the commas outside of parentheses and then the
parentheticals are dropped, or these first and then every comma cuts; cutting loses nothing. So
a dependency item names what is left between the commas of its value without parentheticals,
but for words that say there is nothing. No name has an opening parenthesis or a comma in it,
and all its characters stood outside of parentheses. -/
theorem dropParentheticals_splitTopLevel_comm (text : List Char) :
    [','].intercalate (splitTopLevel 0 text) = text ∧
    (splitTopLevel 0 text).map (dropParentheticals 0) = pieces ',' (dropParentheticals 0 text) ∧
    ∀ line, dependencyValue? line = some text →
      (saysNone text = false → dependencyTargets line =
        (((pieces ',' (dropParentheticals 0 text)).map fun piece =>
          trimDecoration (trim piece)).filter fun name => !saysNone name).map String.ofList) ∧
      ∀ target ∈ dependencyTargets line,
        '(' ∉ target.toList ∧ ',' ∉ target.toList ∧ saysNone target.toList = false ∧
        ∃ positions, positions <:+: outsidePositions 0 text ∧
          positions.map (text[·]?) = target.toList.map some := by
  refine ⟨intercalate_splitTopLevel 0 text, map_dropParentheticals_splitTopLevel text,
    fun line h => ⟨dependencyTargets_eq_pieces h, fun target ht => ?_⟩⟩
  obtain ⟨hsentinel, piece, hpiece, hname⟩ := exists_piece_of_mem_dependencyTargets h ht
  have hrun : target.toList <:+: piece := by
    rw [hname]
    exact (trimWhile_isInfix isDecoration _).trans (trimWhile_isInfix isBlank piece)
  have hkept := hrun.trans (infix_of_mem_pieces hpiece)
  refine ⟨?_, ?_, hsentinel, exists_positions hkept⟩
  · exact fun hc => not_mem_dropParentheticals 0 text (hkept.subset hc)
  · exact fun hc => not_mem_of_mem_pieces hpiece (hrun.subset hc)

/-- A list with a description that has a comma in it, a parenthesis that closes nothing, a word
for nothing, and a parenthesis that is never closed. -/
def tangledList : List Char := "Orders (eu, us), Stock), none, (old".toList

def tangledItem : List Char := "- **dependency**: ".toList ++ tangledList

theorem dependencyTargets_tangledItem :
    dependencyValue? tangledItem = some tangledList ∧ saysNone tangledList = false ∧
    dependencyTargets tangledItem = ["Orders", "Stock)"] ∧
    ∀ target ∈ dependencyTargets tangledItem, '(' ∉ target.toList ∧ ',' ∉ target.toList := by
  have hvalue : dependencyValue? tangledItem = some tangledList := by decide +kernel
  have hsentinel : saysNone tangledList = false := by decide +kernel
  obtain ⟨-, -, hitem⟩ := dropParentheticals_splitTopLevel_comm tangledList
  obtain ⟨htargets, hnames⟩ := hitem tangledItem hvalue
  refine ⟨hvalue, hsentinel, ?_, fun target ht => ⟨(hnames target ht).1, (hnames target ht).2.1⟩⟩
  rw [htargets hsentinel]
  decide +kernel

end DesignGraph.Document
