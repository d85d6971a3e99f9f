import DesignGraph.Document.Scan
import DesignGraph.Proofs.Document.TableRow
import Mathlib.Data.List.Basic

/-!
# Printed lines

Headings, table rows and dependency items as one prints them from identifiers, and what
the parsers read from each: the same identifiers, in the same order.
-/
namespace DesignGraph.Document

open Text

/-- The line that heads a component or an entity. -/
def headingLine (name : String) : List Char := "### ".toList ++ name.toList

def padded (cell : String) : List Char := ' ' :: (cell.toList ++ [' '])

def rowLine (cells : List String) : List Char := '|' :: cells.flatMap fun cell => padded cell ++ ['|']

/-- The names of a list, with a comma and a space between two of them. -/
def listed (names : List String) : List Char := [',', ' '].intercalate (names.map String.toList)

/-- The item that lists what a component depends on. -/
def dependencyLine (targets : List String) : List Char :=
  "- **dependency**: ".toList ++ listed targets

/-- An identifier that has no low line at either end, where it would count as emphasis. -/
def IsPlainName (name : String) : Prop :=
  IsIdentifier name.toList ∧ name.toList.head? ≠ some '_' ∧ name.toList.getLast? ≠ some '_'

instance (name : String) : Decidable (IsPlainName name) :=
  inferInstanceAs (Decidable (IsIdentifier name.toList ∧ name.toList.head? ≠ some '_' ∧
    name.toList.getLast? ≠ some '_'))

theorem isDecoration_iff_mem {c : Char} : isDecoration c = true ↔ c ∈ ['\x60', '*', '_', ' '] := by
  simp [isDecoration, codeQuote, or_assoc]

theorem eq_of_isDecoration {c : Char} (hw : isWord c = true) (hd : isDecoration c = true) :
    c = '_' := by
  have hmarks : isWord codeQuote = false ∧ isWord '*' = false ∧ isWord ' ' = false := by
    decide +kernel
  simp only [isDecoration, Bool.or_eq_true, beq_iff_eq] at hd
  rcases hd with ((rfl | rfl) | rfl) | rfl
  · rw [hmarks.1] at hw
    cases hw
  · rw [hmarks.2.1] at hw
    cases hw
  · rfl
  · rw [hmarks.2.2] at hw
    cases hw

theorem IsPlainName.trimDecoration_eq {name : String} (h : IsPlainName name) :
    trimDecoration name.toList = name.toList := by
  obtain ⟨hi, hhead, hlast⟩ := h
  refine trimWhile_eq_self ?_ ?_
  · intro c hc
    rw [Bool.eq_false_iff]
    exact fun hd => hhead (eq_of_isDecoration (hi.isWord_of_head? hc) hd ▸ hc)
  · intro c hc
    rw [Bool.eq_false_iff]
    exact fun hd => hlast (eq_of_isDecoration (hi.isWord_of_getLast? hc) hd ▸ hc)

/-! ## Headings -/

theorem classify_headingLine {name : String} (h : IsIdentifier name.toList) :
    Line.classify (headingLine name) = .subHeading name.toList := by
  have hc : Line.classify (headingLine name) = .subHeading (trim name.toList) := rfl
  rw [hc, h.trim_eq]

theorem componentName_of_isPlainName {name : String} (h : IsPlainName name) :
    componentName name.toList = name.toList := by
  have hlast : name.toList.getLast? ≠ some ')' := by
    intro hl
    have hw := h.1.isWord_of_getLast? hl
    revert hw
    decide
  rw [componentName, h.1.trim_eq, dropClosingParenthetical, if_neg hlast, h.trimDecoration_eq]

theorem entityName?_of_isIdentifier {name : String} (h : IsIdentifier name.toList)
    (hu : name.toList.head?.any isUppercase = true) :
    entityName? name.toList = some name.toList := by
  have hquote : dropOpeningQuote name.toList = name.toList := by
    simpa using dropOpeningQuote_append h List.mem_cons_self []
  rw [entityName?, h.trimStart_eq, hquote, h.takeWhile_isWord]
  exact if_pos hu

/-! ## Rows -/

theorem classify_rowLine (cells : List String) :
    Line.classify (rowLine cells) = .tableRow (rowLine cells) := rfl

/-- The cells of a printed row, when none of them has a bar in it. -/
theorem tableCells_rowLine {cells : List String} (h : ∀ cell ∈ cells, '|' ∉ cell.toList) :
    tableCells (rowLine cells) = cells.map padded := by
  have hbar : ∀ text ∈ cells.map padded, '|' ∉ text := by
    intro text hm
    obtain ⟨cell, hcell, rfl⟩ := List.mem_map.mp hm
    simpa [padded] using h cell hcell
  have hp := pieces_flatMap_append hbar
  rw [List.flatMap_map] at hp
  change (pieces '|' (cells.flatMap fun cell => padded cell ++ ['|'])).dropLast = _
  rw [hp, List.dropLast_concat]

theorem trim_padded {name : String} (h : IsIdentifier name.toList) :
    trim (padded name) = name.toList := by
  rw [padded, trim_cons_blank _ rfl, trim_append_blank _ rfl, h.trim_eq]

theorem bareIdentifier?_padded {name : String} (h : IsIdentifier name.toList) :
    bareIdentifier? (padded name) = some name.toList := by
  rw [bareIdentifier?_of_trim ((trim_padded h).symm ▸ h), trim_padded h]

/-- A row whose first two cells hold identifiers names the second as the target, unless that
is the title of the column. -/
theorem tableTarget?_of_trim {row first second : List Char} {others : List (List Char)}
    (hcells : tableCells row = first :: second :: others) (hfirst : IsIdentifier (trim first))
    (hsecond : IsIdentifier (trim second)) :
    tableTarget? row =
      (some (String.ofList (trim second))).filter fun name => name != targetTitleCell := by
  have hne : first.isEmpty = false := by
    rw [List.isEmpty_eq_false_iff]
    rintro rfl
    exact hfirst.1 rfl
  rw [tableTarget?, isSeparatorRow_of_trim hcells hfirst, hcells]
  simp only [hne, Bool.false_eq_true, ↓reduceIte, bareIdentifier?_of_trim hsecond, Option.map_some]

section Rows

variable {first : String} {others : List String} (hfirst : IsIdentifier first.toList)
  (hothers : ∀ cell ∈ others, IsIdentifier cell.toList)
include hfirst hothers

theorem tableCells_rowLine_cons :
    tableCells (rowLine (first :: others)) = padded first :: others.map padded := by
  have hbar : isWord '|' = false := by decide
  rw [tableCells_rowLine, List.map_cons]
  intro cell hm
  rcases List.mem_cons.mp hm with rfl | hm
  · exact hfirst.not_mem hbar
  · exact (hothers cell hm).not_mem hbar

/-- A printed row names its first cell as a field, unless that is the word of a header. -/
theorem fieldName?_rowLine (h : first ∉ headerTokens) :
    fieldName? (rowLine (first :: others)) = some first := by
  rw [fieldName?, tableCells_rowLine_cons hfirst hothers]
  simp [bareIdentifier?_padded hfirst, h]

end Rows

theorem isRelationHeader_rowLine_singleton {name : String} (h : IsIdentifier name.toList) :
    isRelationHeader (rowLine [name]) = false := by
  rw [isRelationHeader, tableCells_rowLine_cons h (by simp)]
  rfl

/-- A printed row of a relation table names its second cell as the target. -/
theorem tableTarget?_rowLine {relation target : String} (hr : IsIdentifier relation.toList)
    (ht : IsIdentifier target.toList) (hne : target ≠ targetTitleCell) :
    tableTarget? (rowLine [relation, target]) = some target := by
  have hothers : ∀ cell ∈ [target], IsIdentifier cell.toList := by simpa using ht
  rw [tableTarget?_of_trim (tableCells_rowLine_cons hr hothers) ((trim_padded hr).symm ▸ hr)
    ((trim_padded ht).symm ▸ ht), trim_padded ht]
  simp [hne]

/-! ## Dependency items -/

theorem classify_dependencyLine (targets : List String) :
    Line.classify (dependencyLine targets) = .plain (dependencyLine targets) := rfl

theorem dependencyValue?_dependencyLine (targets : List String) :
    dependencyValue? (dependencyLine targets) = some (trim (listed targets)) := rfl

theorem listed_cons_cons (first second : String) (rest : List String) :
    listed (first :: second :: rest) = first.toList ++ ',' :: ' ' :: listed (second :: rest) := by
  simp [listed]

theorem mem_listed {c : Char} {names : List String} (h : c ∈ listed names) :
    c = ',' ∨ c = ' ' ∨ ∃ name ∈ names, c ∈ name.toList := by
  induction names with
  | nil => simp [listed] at h
  | cons first rest ih =>
    cases rest with
    | nil => exact .inr (.inr ⟨first, List.mem_cons_self, by simpa [listed] using h⟩)
    | cons second more =>
      rw [listed_cons_cons, List.mem_append, List.mem_cons, List.mem_cons] at h
      rcases h with h | h | h | h
      · exact .inr (.inr ⟨first, List.mem_cons_self, h⟩)
      · exact .inl h
      · exact .inr (.inl h)
      · rcases ih h with h | h | ⟨name, hm, hc⟩
        · exact .inl h
        · exact .inr (.inl h)
        · exact .inr (.inr ⟨name, List.mem_cons_of_mem first hm, hc⟩)

/-- A list of identifiers starts and ends with word characters. -/
theorem isWord_ends_listed {names : List String} (h : ∀ name ∈ names, IsIdentifier name.toList) :
    (∀ c, (listed names).head? = some c → isWord c = true) ∧
      ∀ c, (listed names).getLast? = some c → isWord c = true := by
  induction names with
  | nil => simp [listed]
  | cons first rest ih =>
    have hfirst := h first List.mem_cons_self
    have hrest := ih fun name hm => h name (List.mem_cons_of_mem first hm)
    cases rest with
    | nil =>
      have hone : listed [first] = first.toList := by simp [listed]
      rw [hone]
      exact ⟨fun _ hc => hfirst.isWord_of_head? hc, fun _ hc => hfirst.isWord_of_getLast? hc⟩
    | cons second more =>
      have hsecond := h second (List.mem_cons_of_mem first List.mem_cons_self)
      have hne : listed (second :: more) ≠ [] := by
        cases more <;> simp [listed, hsecond.1]
      rw [listed_cons_cons]
      constructor
      · intro c hc
        obtain ⟨d, tail, hd⟩ := List.exists_cons_of_ne_nil hfirst.1
        rw [hd] at hc
        exact hfirst.isWord_of_head? (by rw [hd]; exact hc)
      · intro c hc
        rw [List.getLast?_append_of_ne_nil _ (List.cons_ne_nil _ _), List.getLast?_cons_cons,
          List.getLast?_cons_of_ne_nil hne] at hc
        exact hrest.2 c hc

theorem trim_listed {names : List String} (h : ∀ name ∈ names, IsIdentifier name.toList) :
    trim (listed names) = listed names :=
  trimWhile_eq_self (fun c hc => isBlank_of_isWord ((isWord_ends_listed h).1 c hc))
    fun c hc => isBlank_of_isWord ((isWord_ends_listed h).2 c hc)

/-- A value with a character that none of the words for no dependency has is none of them. -/
theorem saysNone_of_mem {c : Char} (hlower : lowercase c = [c])
    (hwords : ∀ word ∈ noneWords, c ∉ word.toList) {value : List Char} (h : c ∈ trim value) :
    saysNone value = false := by
  have hmem : c ∈ (trim value).flatMap lowercase :=
    List.mem_flatMap.mpr ⟨c, h, hlower ▸ List.mem_singleton_self c⟩
  rw [saysNone, Bool.eq_false_iff]
  intro hc
  have hm := hwords _ (List.contains_iff_mem.mp hc)
  rw [String.toList_ofList] at hm
  exact hm hmem

/-- So a list of several names is none of these words. -/
theorem saysNone_of_comma_mem {value : List Char} (h : ',' ∈ trim value) :
    saysNone value = false :=
  saysNone_of_mem (by decide) (by decide) h

theorem saysNone_listed {names : List String} (hne : names ≠ [])
    (h : ∀ name ∈ names, IsIdentifier name.toList ∧ saysNone name.toList = false) :
    saysNone (listed names) = false := by
  match names, hne with
  | [name], _ =>
    have hone : listed [name] = name.toList := by simp [listed]
    rw [hone]
    exact (h name List.mem_cons_self).2
  | first :: second :: rest, _ =>
    refine saysNone_of_comma_mem ?_
    rw [trim_listed fun name hm => (h name hm).1, listed_cons_cons]
    exact List.mem_append_right _ List.mem_cons_self

/-- No comma and no parenthesis stands in an identifier or a space. -/
def IsUncut (piece : List Char) : Prop := ∀ c ∈ piece, c ≠ ',' ∧ c ≠ '(' ∧ c ≠ ')'

theorem isUncut_of_isIdentifier {text : List Char} (h : IsIdentifier text) : IsUncut text := by
  intro c hc
  have hw := h.2 c hc
  refine ⟨?_, ?_, ?_⟩ <;> rintro rfl <;> revert hw <;> decide

theorem splitTopLevel_append {piece rest next : List Char} {more : List (List Char)}
    (h : IsUncut piece) (hr : splitTopLevel 0 rest = next :: more) :
    splitTopLevel 0 (piece ++ rest) = (piece ++ next) :: more := by
  induction piece with
  | nil => exact hr
  | cons c piece ih =>
    obtain ⟨hcomma, hopen, hclose⟩ := h c List.mem_cons_self
    have hdepth : depthAfter 0 c = 0 := by rw [depthAfter, if_neg hopen, if_neg hclose]
    rw [List.cons_append, splitTopLevel, if_neg fun hc => hcomma hc.1, hdepth,
      ih fun d hd => h d (List.mem_cons_of_mem c hd)]
    rfl

/-- Cut at its commas, a list gives its names, all but the first after a space. -/
theorem splitTopLevel_listed (first : String) (rest : List String)
    (h : ∀ name ∈ first :: rest, IsIdentifier name.toList) :
    splitTopLevel 0 (listed (first :: rest)) =
      first.toList :: rest.map fun name => ' ' :: name.toList := by
  have hfirst := isUncut_of_isIdentifier (h first List.mem_cons_self)
  induction rest generalizing first with
  | nil =>
    have hone : listed [first] = first.toList ++ [] := by simp [listed]
    rw [hone, splitTopLevel_append hfirst rfl, List.append_nil]
    rfl
  | cons second more ih =>
    have hrest : ∀ name ∈ second :: more, IsIdentifier name.toList := fun name hm =>
      h name (List.mem_cons_of_mem first hm)
    -- the space after a comma goes to the next piece, which is why the names after the first have it
    have hspace : IsUncut [' '] := by
      intro c hc
      rw [List.mem_singleton.mp hc]
      decide
    have hnext := splitTopLevel_append hspace
      (ih second hrest (isUncut_of_isIdentifier (hrest second List.mem_cons_self)))
    have hcut : splitTopLevel 0 (',' :: ' ' :: listed (second :: more)) =
        [] :: splitTopLevel 0 (' ' :: listed (second :: more)) := rfl
    rw [listed_cons_cons, splitTopLevel_append hfirst hcut, List.append_nil]
    exact congrArg (first.toList :: ·) hnext

theorem dropParentheticals_of_not_mem {text : List Char} (h : '(' ∉ text) :
    dropParentheticals 0 text = text := by
  induction text with
  | nil => rfl
  | cons c rest ih =>
    have hc : c ≠ '(' := fun e => h (e ▸ List.mem_cons_self)
    rw [dropParentheticals, if_neg hc, ih fun hm => h (List.mem_cons_of_mem c hm)]

/-- The name that a piece of a dependency list gives. -/
def pieceName (piece : List Char) : List Char :=
  trimDecoration (trim (dropParentheticals 0 piece))

/-- What a dependency item with a proper value names. -/
theorem dependencyTargets_of_value {line value : List Char} (h : dependencyValue? line = some value)
    (hs : saysNone value = false) :
    dependencyTargets line = (((splitTopLevel 0 value).map pieceName).filter fun name =>
      !saysNone name).map String.ofList := by
  rw [dependencyTargets, h]
  simp only [hs, Bool.false_eq_true, ↓reduceIte]
  rfl

theorem pieceName_of_isPlainName {name : String} (h : IsPlainName name) :
    pieceName name.toList = name.toList := by
  have hopen : '(' ∉ name.toList := h.1.not_mem (by decide)
  rw [pieceName, dropParentheticals_of_not_mem hopen, h.1.trim_eq, h.trimDecoration_eq]

theorem pieceName_cons_space (piece : List Char) : pieceName (' ' :: piece) = pieceName piece := by
  have hopen : dropParentheticals 0 (' ' :: piece) = ' ' :: dropParentheticals 0 piece := rfl
  rw [pieceName, hopen, trim_cons_blank _ rfl, pieceName]

/-- A printed dependency item names what it was printed from. -/
theorem dependencyTargets_dependencyLine {targets : List String} (hne : targets ≠ [])
    (h : ∀ target ∈ targets, IsPlainName target ∧ saysNone target.toList = false) :
    dependencyTargets (dependencyLine targets) = targets := by
  obtain ⟨first, rest, rfl⟩ := List.exists_cons_of_ne_nil hne
  have hid : ∀ target ∈ first :: rest, IsIdentifier target.toList := fun target hm =>
    (h target hm).1.1
  have hvalue : saysNone (listed (first :: rest)) = false :=
    saysNone_listed hne fun target hm => ⟨hid target hm, (h target hm).2⟩
  have hname : ∀ target ∈ first :: rest, pieceName target.toList = target.toList :=
    fun target hm => pieceName_of_isPlainName (h target hm).1
  have hpieces : (splitTopLevel 0 (listed (first :: rest))).map pieceName =
      (first :: rest).map String.toList := by
    have hrest : (rest.map fun name => ' ' :: name.toList).map pieceName =
        rest.map String.toList := by
      rw [List.map_map]
      refine List.map_congr_left fun target hm => ?_
      rw [Function.comp_apply, pieceName_cons_space, hname target (List.mem_cons_of_mem first hm)]
    rw [splitTopLevel_listed first rest hid, List.map_cons, List.map_cons,
      hname first List.mem_cons_self, hrest]
  have hkept : ((first :: rest).map String.toList).filter (fun name => !saysNone name) =
      (first :: rest).map String.toList := by
    rw [List.filter_eq_self]
    intro name hm
    obtain ⟨target, ht, rfl⟩ := List.mem_map.mp hm
    rw [(h target ht).2]
    rfl
  have hline : dependencyValue? (dependencyLine (first :: rest)) = some (listed (first :: rest)) := by
    rw [dependencyValue?_dependencyLine, trim_listed hid]
  rw [dependencyTargets_of_value hline hvalue, hpieces, hkept, List.map_map]
  simp

end DesignGraph.Document
