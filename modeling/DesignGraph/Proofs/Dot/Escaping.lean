import DesignGraph.Proofs.Dot.Lexer

/-!
# Escaped names and record labels

Names and record labels are escaped in two ways that end up in the same text. Either way no
quote of theirs closes the quoted token they stand in, and either way they are read back:
a name as it was, a record label as the cells it was made from.
-/
namespace DesignGraph.Dot

/-! ## Names -/

theorem sealed_quoteChar (c : Char) : Sealed (quoteChar c) := by
  unfold quoteChar
  split
  · exact sealed_escaped c
  · rename_i hmark
    rw [not_or] at hmark
    split
    · exact sealed_escaped 'n'
    · exact sealed_singleton hmark.1 hmark.2

theorem unquote?_cons {c : Char} (hq : c ≠ '"') (hb : c ≠ '\\') (rest : List Char) :
    unquote? (c :: rest) = (unquote? rest).map (c :: ·) := by
  rw [unquote?]
  · rw [if_neg]
    simp [hq, hb]
  all_goals
    intro _ he
    exact absurd he hb

theorem unquote?_quoteChar (c : Char) (rest : List Char) :
    unquote? (quoteChar c ++ rest) = (unquote? rest).map (c :: ·) := by
  unfold quoteChar
  split
  · rename_i hmark
    rcases hmark with rfl | rfl
    · rfl
    · rfl
  · rename_i hmark
    rw [not_or] at hmark
    split
    · rename_i hn
      rw [hn]
      rfl
    · exact unquote?_cons hmark.1 hmark.2 rest

theorem unquote?_flatMap_quoteChar (text : List Char) :
    unquote? (text.flatMap quoteChar) = some text := by
  induction text with
  | nil => rfl
  | cons c rest ih =>
    rw [List.flatMap_cons, unquote?_quoteChar, ih]
    rfl

/-! ## Record labels -/

theorem ne_of_not_isRecordMark {c d : Char} (hc : isRecordMark c = false)
    (hd : isRecordMark d = true) : c ≠ d := by
  rintro rfl
  rw [hc] at hd
  cases hd

theorem sealed_escapeRecordChar (c : Char) : Sealed (escapeRecordChar c) := by
  unfold escapeRecordChar
  split
  · exact sealed_escaped c
  · rename_i hmark
    rw [Bool.not_eq_true] at hmark
    exact sealed_singleton (ne_of_not_isRecordMark hmark rfl) (ne_of_not_isRecordMark hmark rfl)

theorem sealed_escapeRecord (text : List Char) : Sealed (escapeRecord text) :=
  sealed_flatMap text fun c _ => sealed_escapeRecordChar c

theorem cellsToBrace?_escapeRecordChar (c : Char) (rest : List Char) :
    cellsToBrace? (escapeRecordChar c ++ rest) =
      (cellsToBrace? rest).map fun (cell, more) => (c :: cell, more) := by
  unfold escapeRecordChar
  split
  · rfl
  · rename_i hmark
    rw [Bool.not_eq_true] at hmark
    have hmarks : ∀ d ∈ ['\x7b', '\x7d', '<', '>', '"', '\\'], isRecordMark d = true :=
      List.all_eq_true.mp (by decide)
    have hrefused : c ∉ ['\x7b', '\x7d', '<', '>', '"', '\\'] := fun hm =>
      ne_of_not_isRecordMark hmark (hmarks c hm) rfl
    rw [List.singleton_append, cellsToBrace?, if_neg hrefused]
    · intro he
      exact absurd he (ne_of_not_isRecordMark hmark rfl)
    · intro _ _ he
      exact absurd he (ne_of_not_isRecordMark hmark rfl)
    · intro he
      exact absurd he (ne_of_not_isRecordMark hmark rfl)

theorem cellsToBrace?_escapeRecord (text rest : List Char) :
    cellsToBrace? (escapeRecord text ++ rest) =
      (cellsToBrace? rest).map fun (cell, more) => (text ++ cell, more) := by
  induction text with
  | nil => simp [escapeRecord]
  | cons c text ih =>
    rw [escapeRecord, List.flatMap_cons, List.append_assoc, cellsToBrace?_escapeRecordChar]
    rw [escapeRecord] at ih
    rw [ih, Option.map_map]
    rfl

/-- Cells between bars are read back one by one; no cells at all are read as an empty one. -/
theorem cellsToBrace?_intercalate (texts : List (List Char)) :
    cellsToBrace? (['|'].intercalate (texts.map escapeRecord) ++ ['\x7d']) =
      some (texts.headD [], texts.tail) := by
  induction texts with
  | nil => rfl
  | cons text rest ih =>
    -- the last cell ends at the brace, every other at its bar
    cases rest with
    | nil =>
      rw [List.map_singleton, List.intercalate_singleton, cellsToBrace?_escapeRecord]
      simp [cellsToBrace?]
    | cons next more =>
      rw [List.map_cons, List.map_cons, List.intercalate_cons_cons, List.append_assoc,
        List.append_assoc, cellsToBrace?_escapeRecord, List.singleton_append, cellsToBrace?]
      rw [List.map_cons] at ih
      rw [ih]
      simp

/-- The texts that an entity shows in its record: its name and its first ten fields, or one
empty text where it has no field. -/
def recordTexts (entity : String) (fields : List String) : List String :=
  entity :: if fields.isEmpty then [""] else fields.take 10

theorem recordLabel_eq (entity : String) (fields : List String) :
    recordLabel entity fields = '\x7b' :: (escapeRecord entity.toList ++ '|' ::
      (['|'].intercalate (((fields.take 10).map String.toList).map escapeRecord) ++ ['\x7d'])) := by
  simp [recordLabel, shownFields, Function.comp_def]

/-- A record label is read back as the name of the entity and its first fields. -/
theorem recordCells?_recordLabel (entity : String) (fields : List String) :
    recordCells? (recordLabel entity fields) =
      some ((recordTexts entity fields).map String.toList) := by
  rw [recordLabel_eq, recordCells?, cellsToBrace?_escapeRecord, cellsToBrace?,
    cellsToBrace?_intercalate]
  cases fields with
  | nil => simp [recordTexts]
  | cons field rest => simp [recordTexts]

theorem sealed_recordLabel (entity : String) (fields : List String) :
    Sealed (recordLabel entity fields) := by
  have hopen : Sealed ['\x7b'] := sealed_singleton (by decide) (by decide)
  have hbar : Sealed ['|'] := sealed_singleton (by decide) (by decide)
  have hclose : Sealed ['\x7d'] := sealed_singleton (by decide) (by decide)
  have hcells : ∀ cell ∈ ((fields.take 10).map String.toList).map escapeRecord, Sealed cell := by
    intro cell hm
    obtain ⟨text, -, rfl⟩ := List.mem_map.mp hm
    exact sealed_escapeRecord text
  rw [recordLabel_eq]
  exact hopen.append ((sealed_escapeRecord _).append (hbar.append ((hbar.intercalate hcells).append
    hclose)))

end DesignGraph.Dot
