/-!
# Pieces between separators

The pieces of a text are what stands between its separators: one more piece than there
are separators, and joining the pieces again gives the text.
-/

namespace DesignGraph.Text

/-- The pieces of the text between the separators, empty ones included. -/
def pieces (separator : Char) : List Char → List (List Char)
  | [] => [[]]
  | c :: rest =>
    if c = separator then [] :: pieces separator rest
    else
      match pieces separator rest with
      | [] => [[c]]
      | piece :: more => (c :: piece) :: more

theorem pieces_ne_nil (separator : Char) (text : List Char) : pieces separator text ≠ [] := by
  cases text with
  | nil => simp [pieces]
  | cons c rest =>
    unfold pieces
    split
    · simp
    · split <;> simp

theorem intercalate_pieces (separator : Char) (text : List Char) :
    [separator].intercalate (pieces separator text) = text := by
  induction text with
  | nil => rfl
  | cons c rest ih =>
    unfold pieces
    have hne := pieces_ne_nil separator rest
    cases hp : pieces separator rest with
    | nil => exact absurd hp hne
    | cons piece more =>
      rw [hp] at ih
      by_cases hc : c = separator
      · simp only [hc, ↓reduceIte]
        rw [← ih]
        rfl
      · simp only [hc, ↓reduceIte]
        cases more with
        | nil => simpa using ih
        | cons next others =>
          simp only [List.intercalate_cons_cons, List.cons_append] at ih ⊢
          rw [ih]

end DesignGraph.Text
