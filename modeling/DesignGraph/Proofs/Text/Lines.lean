import DesignGraph.Text.Lines

/-!
# Lines of joined texts

A line feed separates for good: the lines of a text that goes on after one are the lines
up to it and then those of the rest. What a line feed does to the last line of a text is
to take one carriage return off its end.
-/
namespace DesignGraph.Text

/-- The line without one carriage return at its end. -/
def dropReturn (line : List Char) : List Char :=
  if line.getLast? = some '\r' then line.dropLast else line

theorem dropReturn_cons {c : Char} {line : List Char} (h : c = '\r' → line ≠ []) :
    dropReturn (c :: line) = c :: dropReturn line := by
  cases line with
  | nil =>
    have hc : c ≠ '\r' := fun hc => h hc rfl
    simp [dropReturn, hc]
  | cons d rest =>
    by_cases hl : (d :: rest).getLast? = some '\r'
    · rw [dropReturn, if_pos (by rwa [List.getLast?_cons_cons]), dropReturn, if_pos hl,
        List.dropLast_cons_of_ne_nil (List.cons_ne_nil d rest)]
    · rw [dropReturn, if_neg (by rwa [List.getLast?_cons_cons]), dropReturn, if_neg hl]

/-- The first character of a text belongs to its first line, unless it ends that. -/
theorem lines_cons {c : Char} {rest : List Char} (hc : c ≠ '\n')
    (hr : c = '\r' → rest.head? ≠ some '\n') :
    lines (c :: rest) = match lines rest with
      | [] => [[c]]
      | line :: more => (c :: line) :: more := by
  refine lines.eq_4 c rest hc ?_
  rintro tail rfl rfl
  exact hr rfl rfl

/-- A line and its line feed come off the front of a text. -/
theorem lines_line {line : List Char} (h : '\n' ∉ line) (rest : List Char) :
    lines (line ++ '\n' :: rest) = dropReturn line :: lines rest := by
  induction line with
  | nil => rw [List.nil_append, lines]; rfl
  | cons c line ih =>
    have hc : c ≠ '\n' := fun e => h (e ▸ List.mem_cons_self)
    have hline : '\n' ∉ line := fun m => h (List.mem_cons_of_mem c m)
    by_cases hr : c = '\r' ∧ line = []
    · obtain ⟨rfl, rfl⟩ := hr
      rw [List.cons_append, List.nil_append, lines]
      rfl
    · have hne : c = '\r' → line ≠ [] := fun he hl => hr ⟨he, hl⟩
      have hhead : c = '\r' → (line ++ '\n' :: rest).head? ≠ some '\n' := by
        intro he hh
        cases line with
        | nil => exact hne he rfl
        | cons d more =>
          obtain rfl : d = '\n' := by simpa using hh
          exact hline List.mem_cons_self
      rw [List.cons_append, lines_cons hc hhead, ih hline, dropReturn_cons hne]

/-- A text without a line feed is one line, if it is anything. -/
theorem lines_of_not_mem {line : List Char} (h : '\n' ∉ line) (hne : line ≠ []) :
    lines line = [line] := by
  induction line with
  | nil => exact absurd rfl hne
  | cons c line ih =>
    have hc : c ≠ '\n' := fun e => h (e ▸ List.mem_cons_self)
    have hline : '\n' ∉ line := fun m => h (List.mem_cons_of_mem c m)
    have hhead : c = '\r' → line.head? ≠ some '\n' := fun _ hh =>
      hline (List.mem_of_head? hh)
    rw [lines_cons hc hhead]
    cases line with
    | nil => rfl
    | cons d more => rw [ih hline (List.cons_ne_nil d more)]

/-- Induction on the lines of a text: a text is a line without a line feed, or such a line,
a line feed and a text. -/
theorem lineInduction {motive : List Char → Prop}
    (last : ∀ line, '\n' ∉ line → motive line)
    (line : ∀ line rest, '\n' ∉ line → motive rest → motive (line ++ '\n' :: rest))
    (text : List Char) : motive text := by
  by_cases h : '\n' ∈ text
  · obtain ⟨first, rest, rfl, hfirst⟩ := List.eq_append_cons_of_mem h
    exact line first rest hfirst (lineInduction last line rest)
  · exact last text h
termination_by text.length

theorem mem_of_mem_dropReturn {c : Char} {line : List Char} (h : c ∈ dropReturn line) :
    c ∈ line := by
  rw [dropReturn] at h
  split at h
  · exact List.dropLast_subset line h
  · exact h

/-- No line holds a line feed. -/
theorem not_mem_of_mem_lines {text line : List Char} (h : line ∈ lines text) : '\n' ∉ line := by
  induction text using lineInduction with
  | last only honly =>
    cases only with
    | nil => cases h
    | cons c rest =>
      rw [lines_of_not_mem honly (List.cons_ne_nil c rest), List.mem_singleton] at h
      exact h ▸ honly
  | line first rest hfirst ih =>
    rw [lines_line hfirst] at h
    rcases List.mem_cons.mp h with rfl | h
    · exact fun hc => hfirst (mem_of_mem_dropReturn hc)
    · exact ih h

/-- The text of these lines, each ended by a line feed. -/
def ofLines (ls : List (List Char)) : List Char := ls.flatMap (· ++ ['\n'])

theorem dropReturn_of_not_mem {line : List Char} (h : '\r' ∉ line) : dropReturn line = line := by
  rw [dropReturn, if_neg fun hl => h (List.mem_of_getLast? hl)]

/-- Lines without a line feed or a carriage return in them are read back. -/
theorem lines_ofLines {ls : List (List Char)} (h : ∀ line ∈ ls, '\n' ∉ line ∧ '\r' ∉ line) :
    lines (ofLines ls) = ls := by
  induction ls with
  | nil => rfl
  | cons line rest ih =>
    obtain ⟨hn, hr⟩ := h line List.mem_cons_self
    have hrest := ih fun other hm => h other (List.mem_cons_of_mem line hm)
    rw [ofLines, List.flatMap_cons, List.append_assoc, List.singleton_append, lines_line hn,
      dropReturn_of_not_mem hr]
    exact congrArg (line :: ·) hrest

theorem mem_ofLines {c : Char} {ls : List (List Char)} (h : c ∈ ofLines ls) :
    c = '\n' ∨ ∃ line ∈ ls, c ∈ line := by
  obtain ⟨line, hl, hc⟩ := List.mem_flatMap.mp h
  rcases List.mem_append.mp hc with hc | hc
  · exact .inr ⟨line, hl, hc⟩
  · exact .inl (List.mem_singleton.mp hc)

theorem lines_append_newline (a b : List Char) :
    lines (a ++ '\n' :: b) = lines (a ++ ['\n']) ++ lines b := by
  induction a using lineInduction with
  | last line h =>
    rw [lines_line h, lines_line h]
    rfl
  | line line rest h ih =>
    rw [List.append_assoc, List.cons_append, lines_line h, ih, List.append_assoc,
      List.cons_append, lines_line h]
    rfl

theorem toList_append_newline (a b : String) :
    (a ++ "\n" ++ b).toList = a.toList ++ '\n' :: b.toList := by
  simp [String.toList_append]

end DesignGraph.Text
