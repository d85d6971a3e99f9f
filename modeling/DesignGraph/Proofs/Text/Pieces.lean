import DesignGraph.Text.Pieces

/-!
# Pieces of joined texts

A separator separates for good: the pieces of two texts joined by one are the pieces of
the first and then those of the second.
-/
namespace DesignGraph.Text

theorem pieces_cons_of_ne {separator c : Char} (h : c ≠ separator) {text piece : List Char}
    {more : List (List Char)} (hp : pieces separator text = piece :: more) :
    pieces separator (c :: text) = (c :: piece) :: more := by
  rw [pieces, if_neg h, hp]

theorem pieces_of_not_mem {separator : Char} {text : List Char} (h : separator ∉ text) :
    pieces separator text = [text] := by
  induction text with
  | nil => rfl
  | cons c rest ih =>
    have hc : c ≠ separator := fun e => h (e ▸ List.mem_cons_self)
    exact pieces_cons_of_ne hc (ih fun m => h (List.mem_cons_of_mem c m))

/-- No piece has a separator in it. -/
theorem not_mem_of_mem_pieces {separator : Char} {text piece : List Char}
    (h : piece ∈ pieces separator text) : separator ∉ piece := by
  induction text generalizing piece with
  | nil =>
    rw [pieces, List.mem_singleton] at h
    rw [h]
    exact List.not_mem_nil
  | cons c rest ih =>
    cases hp : pieces separator rest with
    | nil => exact absurd hp (pieces_ne_nil separator rest)
    | cons first more =>
      rw [hp] at ih
      by_cases hc : c = separator
      · rw [pieces, if_pos hc, hp] at h
        rcases List.mem_cons.mp h with rfl | h
        · exact List.not_mem_nil
        · exact ih h
      · rw [pieces_cons_of_ne hc hp] at h
        rcases List.mem_cons.mp h with rfl | h
        · exact List.not_mem_cons_of_ne_of_not_mem (Ne.symm hc) (ih List.mem_cons_self)
        · exact ih (List.mem_cons_of_mem first h)

theorem infix_intercalate {separator : List Char} {texts : List (List Char)} {text : List Char}
    (h : text ∈ texts) : text <:+: separator.intercalate texts := by
  induction texts with
  | nil => cases h
  | cons first rest ih =>
    cases rest with
    | nil =>
      obtain rfl := List.mem_singleton.mp h
      simp
    | cons next more =>
      rw [List.intercalate_cons_cons]
      rcases List.mem_cons.mp h with rfl | h
      · rw [List.append_assoc]
        exact (List.prefix_append _ _).isInfix
      · exact (ih h).trans (List.suffix_append _ _).isInfix

/-- A piece is one run of the text. -/
theorem infix_of_mem_pieces {separator : Char} {text piece : List Char}
    (h : piece ∈ pieces separator text) : piece <:+: text := by
  have hjoined : piece <:+: [separator].intercalate (pieces separator text) := infix_intercalate h
  rwa [intercalate_pieces] at hjoined

theorem pieces_append_separator (separator : Char) (a b : List Char) :
    pieces separator (a ++ separator :: b) = pieces separator a ++ pieces separator b := by
  induction a with
  | nil => simp [pieces]
  | cons c rest ih =>
    by_cases hc : c = separator
    · rw [List.cons_append, pieces, if_pos hc, ih, pieces, if_pos hc, List.cons_append]
    · cases hp : pieces separator rest with
      | nil => exact absurd hp (pieces_ne_nil separator rest)
      | cons piece more =>
        rw [hp, List.cons_append] at ih
        rw [List.cons_append, pieces_cons_of_ne hc ih, pieces_cons_of_ne hc hp, List.cons_append]

/-- Texts without separators that are joined by them are the pieces of what they make. -/
theorem pieces_intercalate {separator : Char} {texts : List (List Char)} (hne : texts ≠ [])
    (h : ∀ text ∈ texts, separator ∉ text) :
    pieces separator ([separator].intercalate texts) = texts := by
  induction texts with
  | nil => exact absurd rfl hne
  | cons first rest ih =>
    have hfirst := pieces_of_not_mem (h first List.mem_cons_self)
    cases rest with
    | nil => simpa using hfirst
    | cons next more =>
      have hrest := ih (List.cons_ne_nil next more) fun text hm => h text (List.mem_cons_of_mem first hm)
      rw [List.intercalate_cons_cons, List.append_assoc, List.singleton_append,
        pieces_append_separator, hfirst, hrest]
      rfl

/-- A joined text around one of its parts. -/
theorem intercalate_append_cons (separator : Char) (before : List (List Char)) (part : List Char)
    (after : List (List Char)) :
    [separator].intercalate (before ++ part :: after) =
      before.flatMap (· ++ [separator]) ++ (part ++ after.flatMap (separator :: ·)) := by
  induction before generalizing part after with
  | nil =>
    induction after generalizing part with
    | nil => simp
    | cons next more ih => simpa [List.intercalate_cons_cons] using ih next
  | cons first rest ih =>
    obtain ⟨next, more, hrest⟩ := List.exists_cons_of_ne_nil
      (List.append_ne_nil_of_right_ne_nil rest (List.cons_ne_nil part after))
    rw [List.cons_append, hrest, List.intercalate_cons_cons, ← hrest, ih, List.flatMap_cons,
      List.append_assoc (first ++ [separator])]

/-- A part without separators, and more of them with a separator before each. -/
theorem pieces_append_flatMap {separator : Char} {part : List Char} {after : List (List Char)}
    (hpart : separator ∉ part) (hafter : ∀ text ∈ after, separator ∉ text) :
    pieces separator (part ++ after.flatMap (separator :: ·)) = part :: after := by
  have h := pieces_intercalate (List.cons_ne_nil part after)
    (List.forall_mem_cons.mpr ⟨hpart, hafter⟩)
  have hjoined := intercalate_append_cons separator [] part after
  rw [List.flatMap_nil, List.nil_append, List.nil_append] at hjoined
  rwa [hjoined] at h

/-- Texts without separators, with one after each. -/
theorem pieces_flatMap_append {separator : Char} {texts : List (List Char)}
    (h : ∀ text ∈ texts, separator ∉ text) :
    pieces separator (texts.flatMap (· ++ [separator])) = texts ++ [[]] := by
  have hjoined := intercalate_append_cons separator texts [] []
  rw [List.flatMap_nil, List.append_nil, List.append_nil] at hjoined
  rw [← hjoined]
  refine pieces_intercalate (List.append_ne_nil_of_right_ne_nil _ (List.cons_ne_nil _ _)) ?_
  exact List.forall_mem_append.mpr ⟨h, List.forall_mem_singleton.mpr List.not_mem_nil⟩

theorem flatMap_pieces (separator : Char) (text : List Char) :
    (pieces separator text).flatMap (separator :: ·) = separator :: text := by
  have hjoined := intercalate_append_cons separator [] [] (pieces separator text)
  have htext : [separator].intercalate ([] :: pieces separator text) = separator :: text := by
    rw [List.intercalate_cons_of_ne_nil (pieces_ne_nil separator text), intercalate_pieces]
    rfl
  rw [List.nil_append, htext] at hjoined
  exact hjoined.symm

/-- A text with a separator is cut at its last one. -/
theorem exists_last_separator {separator : Char} {text : List Char} (h : separator ∈ text) :
    ∃ a tail, text = a ++ separator :: tail ∧ separator ∉ tail := by
  obtain ⟨tail, a, he, ht⟩ := List.eq_append_cons_of_mem (List.mem_reverse.mpr h)
  refine ⟨a.reverse, tail.reverse, ?_, by simpa using ht⟩
  rw [← text.reverse_reverse, he]
  simp

/-- What follows the last separator is the last piece. -/
theorem dropLast_pieces {separator : Char} {tail : List Char} (h : separator ∉ tail)
    (a : List Char) : (pieces separator (a ++ separator :: tail)).dropLast = pieces separator a := by
  rw [pieces_append_separator, pieces_of_not_mem h, List.dropLast_concat]

/-- A tail without separators only lengthens the last piece. -/
theorem exists_pieces_append {separator : Char} {tail : List Char} (h : separator ∉ tail)
    (text : List Char) : ∃ before last, pieces separator text = before ++ [last] ∧
      pieces separator (text ++ tail) = before ++ [last ++ tail] := by
  by_cases hm : separator ∈ text
  · obtain ⟨a, last, rfl, hlast⟩ := exists_last_separator hm
    refine ⟨pieces separator a, last, ?_, ?_⟩
    · rw [pieces_append_separator, pieces_of_not_mem hlast]
    · have hboth : separator ∉ last ++ tail := by simp [hlast, h]
      rw [List.append_assoc, List.cons_append, pieces_append_separator, pieces_of_not_mem hboth]
  · have hboth : separator ∉ text ++ tail := by simp [hm, h]
    exact ⟨[], text, pieces_of_not_mem hm, pieces_of_not_mem hboth⟩

/-- A character that is no separator only changes the last piece when it ends a text. -/
theorem dropLast_pieces_concat {separator c : Char} (h : c ≠ separator) (text : List Char) :
    (pieces separator (text ++ [c])).dropLast = (pieces separator text).dropLast := by
  have hc : ∀ t : List Char, separator ∉ t → separator ∉ t ++ [c] := by
    intro t ht
    simpa [ht] using h.symm
  by_cases hm : separator ∈ text
  · obtain ⟨a, tail, rfl, ht⟩ := exists_last_separator hm
    rw [List.append_assoc, List.cons_append, dropLast_pieces (hc tail ht), dropLast_pieces ht]
  · rw [pieces_of_not_mem hm, pieces_of_not_mem (hc text hm)]
    rfl

end DesignGraph.Text
