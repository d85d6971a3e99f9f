import DesignGraph.Proofs.Document.Run
import DesignGraph.Proofs.Text.Blanks
import DesignGraph.Proofs.Text.Lines
import DesignGraph.Proofs.Text.Pieces
import Mathlib.Data.List.Basic
import Mathlib.Data.Option.Basic

/-!
# A blank at the end of a line

A line that ends in one blank more may change its shape: number signs alone make plain
text, and a blank after them makes them a heading without a text. It never changes what
the line contributes, and so the carriage return that a last line keeps while no line feed
follows it does no harm.
-/
namespace DesignGraph.Document

open Text

theorem splitAtStars?_cons {d : Char} {rest : List Char} (h : d = '*' → rest.head? ≠ some '*') :
    splitAtStars? (d :: rest) =
      (splitAtStars? rest).map fun (before, after) => (d :: before, after) := by
  rw [splitAtStars?]
  rintro tail rfl rfl
  exact h rfl rfl

theorem State.tableRow_congr {a b : List Char} (h : tableCells a = tableCells b) (s : State) :
    s.tableRow a = s.tableRow b := by
  have hfield : fieldName? a = fieldName? b := by rw [fieldName?, fieldName?, h]
  have hheader : isRelationHeader a = isRelationHeader b := by
    rw [isRelationHeader, isRelationHeader, h]
  have hrule : isSeparatorRow a = isSeparatorRow b := by rw [isSeparatorRow, isSeparatorRow, h]
  have htarget : tableTarget? a = tableTarget? b := by
    rw [tableTarget?, tableTarget?, hrule, h]
  simp only [tableRow, targetFacts, fieldFacts, hfield, htarget, hheader]

theorem State.facts_plainText_of_no_targets {text : List Char} (h : dependencyTargets text = [])
    (s : State) : (s.plainText text).facts = [] := by
  obtain ⟨topic, component, entity, inTable⟩ := s
  cases topic <;> cases component <;> simp [plainText, h]

/-- A sub-heading without a text names nothing. -/
theorem State.facts_subHeading_nil (s : State) (mode : Mode) : (s.subHeading mode []).facts = [] := by
  obtain ⟨topic, component, entity, inTable⟩ := s
  cases mode <;> cases topic <;> rfl

/-- A fixed beginning without the blank is found with it or without it. -/
theorem isPrefixOf?_concat {c : Char} {beginning : List Char} (h : c ∉ beginning) (text : List Char) :
    beginning.isPrefixOf? (text ++ [c]) = (beginning.isPrefixOf? text).map (· ++ [c]) := by
  induction beginning generalizing text with
  | nil => rfl
  | cons d beginning ih =>
    have hd : c ≠ d := fun e => h (e ▸ List.mem_cons_self)
    cases text with
    | nil => simp [List.isPrefixOf?, hd.symm]
    | cons e rest =>
      simp only [List.cons_append, List.isPrefixOf?, ih fun m => h (List.mem_cons_of_mem d m)]
      split <;> rfl

section BlankAtEnd

variable {c : Char} (hc : isBlank c = true)
include hc

theorem ne_of_blank {d : Char} (hd : isBlank d = false) : c ≠ d := by
  rintro rfl
  rw [hc] at hd
  cases hd

theorem tableCells_append_blank (row : List Char) : tableCells (row ++ [c]) = tableCells row := by
  by_cases h : trimStart row = []
  · simp only [tableCells, h, trimStart_append_blank h hc]
  · rw [tableCells, tableCells, trimStart_append_of_ne_nil h]
    cases ht : trimStart row with
    | nil => exact absurd ht h
    | cons d body =>
      by_cases hd : d = '|'
      · subst hd
        exact dropLast_pieces_concat (ne_of_blank hc rfl) body
      · simp [hd]

theorem splitAtStars?_append_blank (text : List Char) :
    splitAtStars? (text ++ [c]) =
      (splitAtStars? text).map fun (before, after) => (before, after ++ [c]) := by
  have hstar : c ≠ '*' := ne_of_blank hc rfl
  induction text using splitAtStars?.induct with
  | case1 rest => rfl
  | case2 d rest h ih =>
    have hd : d = '*' → rest.head? ≠ some '*' := by
      intro he hr
      obtain ⟨tail, rfl⟩ := List.head?_eq_some_iff.mp hr
      exact h tail he rfl
    have hd' : d = '*' → (rest ++ [c]).head? ≠ some '*' := by
      intro he
      cases rest with
      | nil => simpa using hstar
      | cons e tail => exact hd he
    rw [List.cons_append, splitAtStars?_cons hd', splitAtStars?_cons hd, ih, Option.map_map,
      Option.map_map]
    rfl
  | case3 => simp [splitAtStars?]

/-- A fixed beginning is found after blanks whatever blank ends the text. -/
theorem after?_trimStart_append_blank {beginning : String} (hne : beginning.toList ≠ [])
    (hb : beginning.toList.any isBlank = false) (text : List Char) :
    after? beginning (trimStart (text ++ [c])) =
      (after? beginning (trimStart text)).map (· ++ [c]) := by
  have hnil : after? beginning [] = none := by
    cases hl : beginning.toList with
    | nil => exact absurd hl hne
    | cons d rest => simp [after?, hl, List.isPrefixOf?]
  by_cases h : trimStart text = []
  · rw [trimStart_append_blank h hc, h, hnil]
    rfl
  · have hm : c ∉ beginning.toList := by
      intro hm
      exact absurd hc (List.any_eq_false.mp hb c hm)
    rw [trimStart_append_of_ne_nil h, after?, isPrefixOf?_concat hm, after?]

theorem dependencyValue?_append_blank (line : List Char) :
    dependencyValue? (line ++ [c]) = dependencyValue? line := by
  have hdash : "-".toList.any isBlank = false := by decide
  have hstars : "**".toList.any isBlank = false := by decide
  have hcolon : ":".toList.any isBlank = false := by decide
  rw [dependencyValue?, dependencyValue?,
    after?_trimStart_append_blank hc (by decide) hdash]
  cases after? "-" (trimStart line) with
  | none => rfl
  | some item =>
    simp only [Option.map_some, Option.bind_eq_bind, Option.bind_some,
      after?_trimStart_append_blank hc (by decide) hstars]
    cases item with
    | nil =>
      have hnil : after? "**" (trimStart []) = none := by decide
      simp [hnil, hc]
    | cons d more =>
      cases after? "**" (trimStart (d :: more)) with
      | none => rfl
      | some bold =>
        simp only [Option.map_some, Option.bind_some, splitAtStars?_append_blank hc]
        cases splitAtStars? bold with
        | none => rfl
        | some split =>
          obtain ⟨label, rest⟩ := split
          simp only [Option.map_some, Option.bind_some,
            after?_trimStart_append_blank hc (by decide) hcolon]
          cases after? ":" (trimStart rest) with
          | none => rfl
          | some value =>
            simp only [Option.map_some, Option.bind_some, trim_append_blank value hc]
            rfl

/-- A heading keeps its text; number signs alone become one. -/
theorem headingText?_append_blank (level : Nat) (raw : List Char) :
    headingText? level (raw ++ [c]) =
      if raw = List.replicate level '#' then some [] else headingText? level raw := by
  have hm : c ∉ List.replicate level '#' := fun h =>
    ne_of_blank hc rfl (List.eq_of_mem_replicate h)
  rw [headingText?, isPrefixOf?_concat hm, headingText?]
  cases hp : (List.replicate level '#').isPrefixOf? raw with
  | none =>
    have hr : raw ≠ List.replicate level '#' := by
      intro hr
      have hfound := List.isPrefixOf?_eq_some_iff_append_eq.mpr ((List.append_nil _).trans hr.symm)
      rw [hp] at hfound
      cases hfound
    simp [hr]
  | some rest =>
    obtain rfl := List.isPrefixOf?_eq_some_iff_append_eq.mp hp
    cases rest with
    | nil => simp [hc, trim, trimWhile]
    | cons d rest =>
      have htrim : trim (d :: (rest ++ [c])) = trim (d :: rest) := trim_append_blank (d :: rest) hc
      simp [htrim]

theorem facts_plainText_append_blank (s : State) (text : List Char) :
    (s.plainText (text ++ [c])).facts = (s.plainText text).facts := by
  simp only [State.plainText, dependencyTargets, dependencyValue?_append_blank hc]

/-- A line contributes the same with a blank more at its end, whatever shape that gives
it. -/
theorem facts_step_append_blank (mode : Mode) (s : State) (raw : List Char) :
    (s.step mode (Line.classify (raw ++ [c]))).facts = (s.step mode (Line.classify raw)).facts := by
  by_cases h2 : raw = List.replicate 2 '#'
  · have hcl : Line.classify (raw ++ [c]) = .sectionHeading [] := by
      rw [Line.classify, headingText?_append_blank hc, if_pos h2]
    have hraw : Line.classify raw = .plain raw := by
      rw [h2]
      decide
    rw [hcl, hraw, h2]
    exact (s.facts_plainText_of_no_targets (by decide)).symm
  by_cases h3 : raw = List.replicate 3 '#'
  · have hcl : Line.classify (raw ++ [c]) = .subHeading [] := by
      have hnone : headingText? 2 raw = none := by
        rw [h3]
        decide
      rw [Line.classify, headingText?_append_blank hc, if_neg h2, hnone,
        headingText?_append_blank hc, if_pos h3]
    have hraw : Line.classify raw = .plain raw := by
      rw [h3]
      decide
    rw [hcl, hraw, h3]
    exact (s.facts_subHeading_nil mode).trans (s.facts_plainText_of_no_targets (by decide)).symm
  rw [Line.classify, Line.classify, headingText?_append_blank hc, if_neg h2,
    headingText?_append_blank hc, if_neg h3]
  cases headingText? 2 raw with
  | some title => rfl
  | none =>
    cases headingText? 3 raw with
    | some text => rfl
    | none =>
      by_cases hb : trimStart raw = []
      · simp only [trimStart_append_blank hb hc, hb]
        exact facts_plainText_append_blank hc s raw
      · have hhead : (trimStart raw ++ [c]).head? = (trimStart raw).head? := by
          cases ht : trimStart raw with
          | nil => exact absurd ht hb
          | cons d rest => rfl
        rw [trimStart_append_of_ne_nil hb, hhead]
        by_cases hd : (trimStart raw).head? = some '|'
        · simp only [hd, ↓reduceIte]
          exact congrArg Step.facts (s.tableRow_congr (tableCells_append_blank hc _))
        · simp only [hd, ↓reduceIte]
          exact facts_plainText_append_blank hc s raw

end BlankAtEnd

theorem facts_step_dropReturn (mode : Mode) (s : State) (raw : List Char) :
    (s.step mode (Line.classify (dropReturn raw))).facts =
      (s.step mode (Line.classify raw)).facts := by
  by_cases h : raw.getLast? = some '\r'
  · obtain ⟨line, rfl⟩ := List.getLast?_eq_some_iff.mp h
    rw [dropReturn, if_pos h, List.dropLast_concat, facts_step_append_blank rfl]
  · rw [dropReturn, if_neg h]

/-- A line feed at the end of a text adds no facts, wherever the scan of the text starts. -/
theorem factsOf_lines_append_newline (mode : Mode) (s : State) (text : List Char) :
    s.factsOf mode ((lines (text ++ ['\n'])).map Line.classify) =
      s.factsOf mode ((lines text).map Line.classify) := by
  induction text using lineInduction generalizing s with
  | last line h =>
    rw [lines_line h, List.map_cons, State.factsOf_cons, facts_step_dropReturn]
    cases line with
    | nil =>
      have hnone : dependencyTargets [] = [] := by decide
      have hfacts : (s.step mode (Line.classify [])).facts = [] :=
        s.facts_plainText_of_no_targets hnone
      rw [hfacts]
      rfl
    | cons c rest =>
      rw [lines_of_not_mem h (List.cons_ne_nil c rest), List.map_singleton, State.factsOf_cons]
      rfl
  | line line rest h ih =>
    rw [List.append_assoc, List.cons_append, lines_line h, lines_line h, List.map_cons,
      List.map_cons, State.factsOf_cons, State.factsOf_cons, ih]

/-- What goes on after a line feed adds facts after those of the text before it. -/
theorem facts_append_newline (mode : Mode) (a b : List Char) :
    facts mode (a ++ '\n' :: b) = facts mode a ++
      (State.initial.after mode ((lines (a ++ ['\n'])).map Line.classify)).factsOf mode
        ((lines b).map Line.classify) := by
  rw [facts_eq_factsOf, facts_eq_factsOf, lines_append_newline, List.map_append,
    State.factsOf_append, factsOf_lines_append_newline]

end DesignGraph.Document
