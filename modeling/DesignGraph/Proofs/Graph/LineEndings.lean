import DesignGraph.Proofs.Document.ArrowPairs
import DesignGraph.Proofs.Document.LineEnd
import DesignGraph.Graph.Extract

/-!
# Line endings

Which characters end the lines of a document does not matter: with a carriage return before
each line feed the graph is the same, and so it is with one line feed more at the end. The
lines are the same in the first case. The arrows see the raw text, but whatever blanks stand
in the place of a line feed, an arrow looks past them to the same words.
-/
namespace DesignGraph

open Document

namespace Text

/-- The text with something else in the place of each line feed. -/
def replaceLineFeeds (ending text : List Char) : List Char :=
  text.flatMap fun c => if c = '\n' then ending else [c]

/-- The text with a carriage return before each line feed. -/
def withReturns (text : String) : String :=
  String.ofList (replaceLineFeeds ['\r', '\n'] text.toList)

theorem replaceLineFeeds_cons_lineFeed (ending text : List Char) :
    replaceLineFeeds ending ('\n' :: text) = ending ++ replaceLineFeeds ending text := by
  rw [replaceLineFeeds, List.flatMap_cons, if_pos rfl]
  rfl

theorem replaceLineFeeds_cons_of_ne {c : Char} (hc : c ≠ '\n') (ending text : List Char) :
    replaceLineFeeds ending (c :: text) = c :: replaceLineFeeds ending text := by
  rw [replaceLineFeeds, List.flatMap_cons, if_neg hc]
  rfl

/-- Without a line feed there is nothing to replace. -/
theorem replaceLineFeeds_append_of_not_mem {line : List Char} (h : '\n' ∉ line)
    (ending text : List Char) :
    replaceLineFeeds ending (line ++ text) = line ++ replaceLineFeeds ending text := by
  induction line with
  | nil => rfl
  | cons c rest ih =>
    have hc : c ≠ '\n' := fun e => h (e ▸ List.mem_cons_self)
    rw [List.cons_append, replaceLineFeeds_cons_of_ne hc,
      ih fun hm => h (List.mem_cons_of_mem c hm), List.cons_append]

/-- A text without carriage returns keeps its lines when each line feed gets one. -/
theorem lines_replaceLineFeeds {text : List Char} (h : '\r' ∉ text) :
    lines (replaceLineFeeds ['\r', '\n'] text) = lines text := by
  induction text using lineInduction with
  | last line hn =>
    have hsame := replaceLineFeeds_append_of_not_mem hn ['\r', '\n'] []
    rw [List.append_nil] at hsame
    rw [hsame, replaceLineFeeds, List.flatMap_nil, List.append_nil]
  | line line rest hn ih =>
    have hline : '\r' ∉ line := fun hm => h (List.mem_append_left _ hm)
    have hrest : '\r' ∉ rest := fun hm => h (List.mem_append_right _ (List.mem_cons_of_mem _ hm))
    have hreturn : '\n' ∉ line ++ ['\r'] := by simpa using hn
    have hdrop : dropReturn (line ++ ['\r']) = line := by simp [dropReturn]
    calc lines (replaceLineFeeds ['\r', '\n'] (line ++ '\n' :: rest))
        = lines ((line ++ ['\r']) ++ '\n' :: replaceLineFeeds ['\r', '\n'] rest) := by
          rw [replaceLineFeeds_append_of_not_mem hn, replaceLineFeeds_cons_lineFeed,
            List.append_assoc]
          rfl
      _ = line :: lines rest := by rw [lines_line hreturn, hdrop, ih hrest]
      _ = lines (line ++ '\n' :: rest) := by rw [lines_line hn, dropReturn_of_not_mem hline]

end Text

namespace Document

open Text

section BlankEnding

variable {ending : List Char} (hne : ending ≠ []) (hb : ∀ c ∈ ending, isBlank c = true)
include hne hb

/-- A word ends at a line feed and at the blanks that stand for one. -/
theorem takeWhile_isWord_replaceLineFeeds (text : List Char) :
    (replaceLineFeeds ending text).takeWhile isWord = text.takeWhile isWord := by
  induction text with
  | nil => rfl
  | cons c rest ih =>
    by_cases hc : c = '\n'
    · obtain ⟨blank, more, rfl⟩ := List.exists_cons_of_ne_nil hne
      have hblank : isWord blank = false := isWord_of_isBlank (hb blank List.mem_cons_self)
      have hfeed : isWord '\n' = false := isWord_of_isBlank rfl
      simp [hc, replaceLineFeeds_cons_lineFeed, hblank, hfeed]
    · rw [replaceLineFeeds_cons_of_ne hc, List.takeWhile_cons, List.takeWhile_cons, ih]

theorem leadingWord_replaceLineFeeds (text : List Char) :
    leadingWord (replaceLineFeeds ending text) = leadingWord text := by
  induction text with
  | nil => rfl
  | cons c rest ih =>
    by_cases hc : c = '\n'
    · rw [hc, replaceLineFeeds_cons_lineFeed, leadingWord_append_of_blank hb,
        leadingWord_cons_of_blank rfl, ih]
    · rw [replaceLineFeeds_cons_of_ne hc]
      cases hblank : isBlank c with
      | true => rw [leadingWord_cons_of_blank hblank, leadingWord_cons_of_blank hblank, ih]
      | false =>
        have hword := takeWhile_isWord_replaceLineFeeds hne hb rest
        simp [leadingWord, hblank, List.takeWhile_cons, hword]

theorem afterArrow?_replaceLineFeeds {c : Char} (hc : c ≠ '\n') (rest : List Char) :
    afterArrow? (c :: replaceLineFeeds ending rest) =
      (afterArrow? (c :: rest)).map (replaceLineFeeds ending) := by
  by_cases harrow : c = '→'
  · subst harrow
    rfl
  by_cases hdash : c = '-'
  · subst hdash
    cases rest with
    | nil => rfl
    | cons d more =>
      by_cases hd : d = '\n'
      · -- neither a line feed nor a blank in its place makes an arrow of the dash
        obtain ⟨blank, others, rfl⟩ := List.exists_cons_of_ne_nil hne
        have hblank : blank ≠ '>' := ne_of_blank (hb blank List.mem_cons_self) rfl
        simp [hd, replaceLineFeeds_cons_lineFeed, afterArrow?, hblank]
      · rw [replaceLineFeeds_cons_of_ne hd]
        by_cases hhead : d = '>'
        · subst hhead
          rfl
        · simp [afterArrow?, hhead]
  · simp [afterArrow?, harrow, hdash]

/-- Blanks in the place of line feeds change no arrow, as nothing but its two words counts. -/
theorem arrowPairsAfter_replaceLineFeeds (reversed text : List Char) :
    arrowPairsAfter (replaceLineFeeds ending.reverse reversed) (replaceLineFeeds ending text) =
      arrowPairsAfter reversed text := by
  -- the text before is given last character first, so there the ending is reversed as well
  induction text generalizing reversed with
  | nil => rfl
  | cons c rest ih =>
    by_cases hc : c = '\n'
    · subst hc
      have hstep := ih ('\n' :: reversed)
      rw [replaceLineFeeds_cons_lineFeed] at hstep
      rw [replaceLineFeeds_cons_lineFeed, arrowPairsAfter_append_of_blank hb, hstep]
      rfl
    · have hreverse : ending.reverse ≠ [] := by simpa using hne
      have hblanks : ∀ d ∈ ending.reverse, isBlank d = true := fun d hd =>
        hb d (List.mem_reverse.mp hd)
      have hbefore : trailingWord (replaceLineFeeds ending.reverse reversed) =
          trailingWord reversed := by
        rw [trailingWord_eq_reverse, leadingWord_replaceLineFeeds hreverse hblanks,
          trailingWord_eq_reverse]
      have hpair : ∀ after : List Char,
          arrowPair? (replaceLineFeeds ending.reverse reversed) (replaceLineFeeds ending after) =
            arrowPair? reversed after := by
        intro after
        rw [arrowPair?_congr_reversed hbefore,
          arrowPair?_congr (leadingWord_replaceLineFeeds hne hb after)]
      have hstep := ih (c :: reversed)
      rw [replaceLineFeeds_cons_of_ne hc] at hstep
      rw [replaceLineFeeds_cons_of_ne hc, arrowPairsAfter, arrowPairsAfter, hstep,
        afterArrow?_replaceLineFeeds hne hb hc, Option.bind_map]
      simp only [Function.comp_def, hpair]

end BlankEnding

theorem arrowPairs_replaceLineFeeds (text : List Char) :
    arrowPairs (replaceLineFeeds ['\r', '\n'] text) = arrowPairs text := by
  have hb : ∀ c ∈ ['\r', '\n'], isBlank c = true := List.all_eq_true.mp rfl
  exact arrowPairsAfter_replaceLineFeeds (List.cons_ne_nil _ _) hb [] text

/-- A line feed at the end of a text gives no word to any arrow. -/
theorem arrowPairs_append_lineFeed (text : List Char) :
    arrowPairs (text ++ ['\n']) = arrowPairs text := by
  rw [arrowPairs, arrowPairsAfter_append_newline rfl, arrowPairsAfter, List.append_nil, arrowPairs]

end Document

namespace Graph

/-- In either mode, a document without carriage returns has the same graph when one is put
before each of its line feeds, and any document has it with one line feed more at its end. -/
theorem extract_line_endings (mode : Mode) (text : String) :
    ('\r' ∉ text.toList → extract mode (Text.withReturns text) = extract mode text) ∧
      extract mode (text ++ "\n") = extract mode text := by
  constructor
  · intro h
    have htext : (Text.withReturns text).toList =
        Text.replaceLineFeeds ['\r', '\n'] text.toList := String.toList_ofList
    rw [extract, extract, htext, arrowPairs_replaceLineFeeds, facts_eq_factsOf,
      facts_eq_factsOf, Text.lines_replaceLineFeeds h]
  · have htext : (text ++ "\n").toList = text.toList ++ ['\n'] := by
      simp [String.toList_append]
    rw [extract, extract, htext, arrowPairs_append_lineFeed, facts_eq_factsOf, facts_eq_factsOf,
      factsOf_lines_append_newline]

/-- It has a relation table, an arrow that reaches over line ends in both directions, and a
last line that starts a section only if a blank follows its number signs. -/
def unixPart : String :=
  "## Components\n### A\n- **dependency**: B\n## Entities\n### E\n| relation | target |\n" ++
    "| r | T |\nU\n ->\n\n V\n##"

theorem extract_withReturns_unixPart :
    '\r' ∉ unixPart.toList ∧
    extract .strict (Text.withReturns unixPart) = extract .strict unixPart ∧
    extract .relaxed (unixPart ++ "\r" ++ "\n") = extract .relaxed (unixPart ++ "\r") ∧
    (extract .strict unixPart).relations.toList = [⟨"A", "B"⟩, ⟨"E", "T"⟩, ⟨"U", "V"⟩] := by
  have hr : '\r' ∉ unixPart.toList := by decide
  refine ⟨hr, (extract_line_endings .strict unixPart).1 hr, ?_, by decide +kernel⟩
  exact (extract_line_endings .relaxed (unixPart ++ "\r")).2

end Graph

end DesignGraph
