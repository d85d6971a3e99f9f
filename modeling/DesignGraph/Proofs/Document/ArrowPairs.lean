import DesignGraph.Document.Arrow
import DesignGraph.Proofs.Text.Blanks

/-!
# The arrows of a text

A text without an arrow gives no pairs, and the pairs of two texts joined by a line feed
are those of both when no arrow sees across the joint. Blanks around an arrow may hold
line breaks, so an arrow looks across a line feed for its words in both directions, but
only past blanks. Where the second text starts with a character that is neither blank nor
part of a word, none does. The pairs of the first text remain whatever follows it, and a
line of blanks at the joint changes no pair at all.
-/
namespace DesignGraph.Document

open Text

theorem arrowPairsAfter_eq_nil {text : List Char} (h : '→' ∉ text) (h' : '>' ∉ text)
    (reversed : List Char) : arrowPairsAfter reversed text = [] := by
  induction text generalizing reversed with
  | nil => rfl
  | cons c rest ih =>
    have hnone : afterArrow? (c :: rest) = none := by
      rw [afterArrow?]
      · intro tail he
        rw [he] at h
        exact h List.mem_cons_self
      · intro tail he
        rw [he] at h'
        exact h' (List.mem_cons_of_mem _ List.mem_cons_self)
    rw [arrowPairsAfter, hnone, ih (fun hm => h (List.mem_cons_of_mem c hm))
      fun hm => h' (List.mem_cons_of_mem c hm)]
    rfl

theorem arrowPairs_eq_nil {text : List Char} (h : '→' ∉ text) (h' : '>' ∉ text) :
    arrowPairs text = [] := arrowPairsAfter_eq_nil h h' []

theorem takeWhile_isWord_append_newline (a b : List Char) :
    (a ++ '\n' :: b).takeWhile isWord = a.takeWhile isWord := by
  have hn : isWord '\n' = false := isWord_of_isBlank rfl
  induction a with
  | nil => simp [hn]
  | cons c rest ih => simp only [List.cons_append, List.takeWhile_cons, ih]

/-- The word at the start of a text lies before a line feed, unless only blanks do. -/
theorem leadingWord_append_newline (a b : List Char) :
    leadingWord (a ++ '\n' :: b) =
      if a.dropWhile isBlank = [] then leadingWord b else leadingWord a := by
  rw [leadingWord, List.dropWhile_append]
  cases h : a.dropWhile isBlank with
  | nil =>
    have hn : isBlank '\n' = true := rfl
    simp [leadingWord, hn]
  | cons c rest =>
    have hw := takeWhile_isWord_append_newline (c :: rest) b
    simpa [leadingWord, h] using hw

/-- Nothing but blanks before the line feed: no word there. -/
theorem leadingWord_of_dropWhile_eq_nil {a : List Char} (h : a.dropWhile isBlank = []) :
    leadingWord a = [] := by
  rw [leadingWord, h]
  rfl

/-- The word at the end of a text, given last character first, is the one at the start of
the reversed text, read backwards. -/
theorem trailingWord_eq_reverse (reversed : List Char) :
    trailingWord reversed = (leadingWord reversed).reverse := rfl

theorem afterArrow?_append_newline (c : Char) (a b : List Char) :
    afterArrow? (c :: (a ++ '\n' :: b)) = (afterArrow? (c :: a)).map (· ++ '\n' :: b) := by
  by_cases hc : c = '→'
  · subst hc
    rfl
  by_cases hd : c = '-'
  · subst hd
    cases a with
    | nil => rfl
    | cons d rest =>
      by_cases he : d = '>'
      · subst he
        rfl
      · simp [afterArrow?, he]
  · simp [afterArrow?, hc, hd]

/-- Of the text after an arrow only the first word counts. -/
theorem arrowPair?_congr {after after' : List Char} (h : leadingWord after = leadingWord after')
    (reversed : List Char) : arrowPair? reversed after = arrowPair? reversed after' := by
  rw [arrowPair?, arrowPair?, h]

/-- Of the text before it only the last word counts. -/
theorem arrowPair?_congr_reversed {reversed reversed' : List Char}
    (h : trailingWord reversed = trailingWord reversed') :
    arrowPair? reversed = arrowPair? reversed' := by
  funext after
  rw [arrowPair?, arrowPair?, h]

/-- The pairs of a text remain when the text goes on after a line feed. -/
theorem arrowPairsAfter_sublist_append_newline (reversed a b : List Char) :
    (arrowPairsAfter reversed a).Sublist (arrowPairsAfter reversed (a ++ '\n' :: b)) := by
  induction a generalizing reversed with
  | nil => exact List.nil_sublist _
  | cons c rest ih =>
    rw [List.cons_append, arrowPairsAfter, arrowPairsAfter]
    refine List.Sublist.append ?_ (ih (c :: reversed))
    rw [afterArrow?_append_newline]
    cases afterArrow? (c :: rest) with
    | none => exact List.nil_sublist _
    | some after =>
      rw [Option.map_some, Option.bind_some, Option.bind_some]
      by_cases hb : after.dropWhile isBlank = []
      · have hnone : arrowPair? reversed after = none := by
          simp [arrowPair?, leadingWord_of_dropWhile_eq_nil hb]
        rw [hnone]
        exact List.nil_sublist _
      · have hword : leadingWord (after ++ '\n' :: b) = leadingWord after := by
          rw [leadingWord_append_newline, if_neg hb]
        simp only [arrowPair?_congr hword, List.Sublist.refl]

/-- A second text without a word at its start gives none to the arrows of the first. -/
theorem arrowPairsAfter_append_newline {b : List Char} (hb : leadingWord b = [])
    (reversed a : List Char) :
    arrowPairsAfter reversed (a ++ '\n' :: b) =
      arrowPairsAfter reversed a ++ arrowPairsAfter ('\n' :: (a.reverse ++ reversed)) b := by
  induction a generalizing reversed with
  | nil => rfl
  | cons c rest ih =>
    have hword : ∀ after : List Char,
        leadingWord (after ++ '\n' :: b) = leadingWord after := by
      intro after
      rw [leadingWord_append_newline]
      split
      · rename_i h
        rw [hb, leadingWord_of_dropWhile_eq_nil h]
      · rfl
    have hpair : ∀ after : List Char,
        arrowPair? reversed (after ++ '\n' :: b) = arrowPair? reversed after := fun after =>
      arrowPair?_congr (hword after) reversed
    simp only [List.cons_append, arrowPairsAfter, ih, afterArrow?_append_newline,
      Option.bind_map, Function.comp_def, hpair, List.reverse_cons, List.append_assoc,
      List.nil_append]

/-- What stands before a line feed is out of sight once something other than blanks
follows the line feed. -/
theorem arrowPairsAfter_append_reversed {reversed : List Char}
    (hr : reversed.dropWhile isBlank ≠ []) (hidden text : List Char) :
    arrowPairsAfter (reversed ++ '\n' :: hidden) text = arrowPairsAfter reversed text := by
  induction text generalizing reversed with
  | nil => rfl
  | cons c rest ih =>
    have hword : trailingWord (reversed ++ '\n' :: hidden) = trailingWord reversed := by
      rw [trailingWord_eq_reverse, leadingWord_append_newline, if_neg hr, trailingWord_eq_reverse]
    have hpair : arrowPair? (reversed ++ '\n' :: hidden) = arrowPair? reversed :=
      arrowPair?_congr_reversed hword
    have hcons : (c :: reversed).dropWhile isBlank ≠ [] := by
      rw [List.dropWhile_cons]
      split
      · exact hr
      · exact List.cons_ne_nil c reversed
    simp only [arrowPairsAfter, hpair, ← ih hcons, List.cons_append]

/-- A text that starts with a character that is no blank, no part of a word and no part of
an arrow shares no arrow with a text on the lines before it. -/
theorem arrowPairs_append_newline {c : Char} (hblank : isBlank c = false)
    (hword : isWord c = false) {b : List Char} (harrow : afterArrow? (c :: b) = none)
    (a : List Char) :
    arrowPairs (a ++ '\n' :: c :: b) = arrowPairs a ++ arrowPairs (c :: b) := by
  have hlead : leadingWord (c :: b) = [] := by simp [leadingWord, hblank, hword]
  have hseen : [c].dropWhile isBlank ≠ [] := by simp [hblank]
  have hhidden := arrowPairsAfter_append_reversed hseen a.reverse b
  rw [arrowPairs, arrowPairsAfter_append_newline hlead, arrowPairs, arrowPairs, List.append_nil]
  simp only [arrowPairsAfter, harrow]
  rw [← hhidden]
  rfl

/-! ## Blanks at a line feed -/

theorem leadingWord_append_of_blank {blanks : List Char} (h : ∀ c ∈ blanks, isBlank c = true)
    (text : List Char) : leadingWord (blanks ++ text) = leadingWord text := by
  rw [leadingWord, List.dropWhile_append_of_pos h, leadingWord]

theorem leadingWord_cons_of_blank {c : Char} (hc : isBlank c = true) (text : List Char) :
    leadingWord (c :: text) = leadingWord text := by
  rw [leadingWord, List.dropWhile_cons_of_pos hc, leadingWord]

/-- The character is none with which an arrow begins. -/
def BeginsNoArrow (c : Char) : Prop := c ≠ '→' ∧ c ≠ '-'

theorem beginsNoArrow_of_isBlank {c : Char} (hc : isBlank c = true) : BeginsNoArrow c := by
  refine ⟨?_, ?_⟩ <;> rintro rfl <;> exact absurd hc (by decide)

/-- No arrow begins in a run of other characters. -/
theorem arrowPairsAfter_append_of_beginsNoArrow {run : List Char} (h : ∀ c ∈ run, BeginsNoArrow c)
    (reversed text : List Char) :
    arrowPairsAfter reversed (run ++ text) = arrowPairsAfter (run.reverse ++ reversed) text := by
  induction run generalizing reversed with
  | nil => rfl
  | cons c rest ih =>
    obtain ⟨hhead, hdash⟩ := h c List.mem_cons_self
    have hnone : afterArrow? (c :: (rest ++ text)) = none := by simp [afterArrow?, hhead, hdash]
    rw [List.cons_append, arrowPairsAfter, hnone, ih fun d hd => h d (List.mem_cons_of_mem c hd),
      List.reverse_cons, List.append_assoc]
    rfl

/-- No arrow stands in blanks. -/
theorem arrowPairsAfter_append_of_blank {blanks : List Char} (h : ∀ c ∈ blanks, isBlank c = true)
    (reversed text : List Char) :
    arrowPairsAfter reversed (blanks ++ text) =
      arrowPairsAfter (blanks.reverse ++ reversed) text :=
  arrowPairsAfter_append_of_beginsNoArrow (fun c hc => beginsNoArrow_of_isBlank (h c hc))
    reversed text

/-- Of what stands before a line feed only the last word counts. -/
theorem arrowPairsAfter_congr_reversed {hidden hidden' : List Char}
    (h : leadingWord hidden = leadingWord hidden') (reversed text : List Char) :
    arrowPairsAfter (reversed ++ '\n' :: hidden) text =
      arrowPairsAfter (reversed ++ '\n' :: hidden') text := by
  induction text generalizing reversed with
  | nil => rfl
  | cons c rest ih =>
    have hword : trailingWord (reversed ++ '\n' :: hidden) =
        trailingWord (reversed ++ '\n' :: hidden') := by
      rw [trailingWord_eq_reverse, trailingWord_eq_reverse, leadingWord_append_newline,
        leadingWord_append_newline, h]
    have hpair : arrowPair? (reversed ++ '\n' :: hidden) =
        arrowPair? (reversed ++ '\n' :: hidden') := arrowPair?_congr_reversed hword
    have hrest := ih (c :: reversed)
    rw [List.cons_append, List.cons_append] at hrest
    rw [arrowPairsAfter, arrowPairsAfter, hpair, hrest]

/-- A line of blanks between two texts changes none of the arrows in either. -/
theorem arrowPairsAfter_insert_blanks {blanks : List Char} (h : ∀ c ∈ blanks, isBlank c = true)
    (reversed a b : List Char) :
    arrowPairsAfter reversed (a ++ '\n' :: (blanks ++ '\n' :: b)) =
      arrowPairsAfter reversed (a ++ '\n' :: b) := by
  induction a generalizing reversed with
  | nil =>
    -- the arrows of `b` look back over the line of blanks to the same word
    have hback : leadingWord (blanks.reverse ++ '\n' :: reversed) = leadingWord reversed := by
      have hreverse : ∀ c ∈ blanks.reverse, isBlank c = true := fun c hc =>
        h c (List.mem_reverse.mp hc)
      rw [leadingWord_append_of_blank hreverse, leadingWord_cons_of_blank rfl]
    calc arrowPairsAfter reversed ('\n' :: (blanks ++ '\n' :: b))
        = arrowPairsAfter ('\n' :: reversed) (blanks ++ '\n' :: b) := rfl
      _ = arrowPairsAfter (blanks.reverse ++ '\n' :: reversed) ('\n' :: b) :=
          arrowPairsAfter_append_of_blank h _ _
      _ = arrowPairsAfter ('\n' :: (blanks.reverse ++ '\n' :: reversed)) b := rfl
      _ = arrowPairsAfter ('\n' :: reversed) b := arrowPairsAfter_congr_reversed hback [] b
      _ = arrowPairsAfter reversed ('\n' :: b) := rfl
  | cons c rest ih =>
    -- those of `a` look forward over it to the same word
    have hforward : leadingWord (blanks ++ '\n' :: b) = leadingWord b := by
      rw [leadingWord_append_of_blank h, leadingWord_cons_of_blank rfl]
    have hpair : ∀ after : List Char,
        arrowPair? reversed (after ++ '\n' :: (blanks ++ '\n' :: b)) =
          arrowPair? reversed (after ++ '\n' :: b) := by
      intro after
      apply arrowPair?_congr
      rw [leadingWord_append_newline, hforward, leadingWord_append_newline]
    simp only [List.cons_append, arrowPairsAfter, ih, afterArrow?_append_newline, Option.bind_map,
      Function.comp_def, hpair]

end DesignGraph.Document
