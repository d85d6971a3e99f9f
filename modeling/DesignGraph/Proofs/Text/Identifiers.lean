import DesignGraph.Proofs.Text.Blanks

/-!
# Identifiers

A text of word characters, at least one. Nothing that the parsers cut at or trim away is a
word character but the low line, so an identifier comes through them whole.
-/
namespace DesignGraph.Text

/-- The text is made of word characters and is not empty. -/
def IsIdentifier (text : List Char) : Prop := text ≠ [] ∧ ∀ c ∈ text, isWord c = true

theorem isIdentifier_iff {text : List Char} :
    IsIdentifier text ↔ (!text.isEmpty && text.all isWord) = true := by
  simp [IsIdentifier]

instance (text : List Char) : Decidable (IsIdentifier text) :=
  decidable_of_iff _ isIdentifier_iff.symm

/-- Nothing is dropped from a text that does not end in such a character. -/
theorem dropEndWhile_eq_self {p : Char → Bool} {text : List Char}
    (hlast : ∀ c, text.getLast? = some c → p c = false) : dropEndWhile p text = text := by
  rcases List.eq_nil_or_concat text with rfl | ⟨front, c, rfl⟩
  · rfl
  · rw [List.concat_eq_append] at hlast ⊢
    exact dropEndWhile_append_of_neg front (hlast c (List.getLast?_concat ..))

/-- A text is its own trimming when no character to be trimmed stands at either end. -/
theorem trimWhile_eq_self {p : Char → Bool} {text : List Char}
    (hhead : ∀ c, text.head? = some c → p c = false)
    (hlast : ∀ c, text.getLast? = some c → p c = false) : trimWhile p text = text := by
  have hstart : text.dropWhile p = text := by
    cases text with
    | nil => rfl
    | cons c rest => simp [hhead c rfl]
  rw [trimWhile, hstart, dropEndWhile_eq_self hlast]

theorem trim_cons_blank {c : Char} (text : List Char) (hc : isBlank c = true) :
    trim (c :: text) = trim text := by
  rw [trim, trimWhile, List.dropWhile_cons_of_pos hc]
  rfl

namespace IsIdentifier

variable {text : List Char} (h : IsIdentifier text)
include h

theorem not_mem {c : Char} (hc : isWord c = false) : c ∉ text := by
  intro hm
  rw [h.2 c hm] at hc
  cases hc

theorem isWord_of_head? {c : Char} (hc : text.head? = some c) : isWord c = true :=
  h.2 c (List.mem_of_head? hc)

theorem isWord_of_getLast? {c : Char} (hc : text.getLast? = some c) : isWord c = true :=
  h.2 c (List.mem_of_getLast? hc)

theorem reverse : IsIdentifier text.reverse :=
  ⟨by simpa using h.1, fun c hc => h.2 c (List.mem_reverse.mp hc)⟩

theorem takeWhile_isWord : text.takeWhile isWord = text := List.takeWhile_eq_self_iff.mpr h.2

theorem trimStart_eq : trimStart text = text := by
  obtain ⟨c, rest, rfl⟩ := List.exists_cons_of_ne_nil h.1
  exact trimStart_cons_of_neg rest (isBlank_of_isWord (h.isWord_of_head? rfl))

theorem trim_eq : trim text = text :=
  trimWhile_eq_self (fun _ hc => isBlank_of_isWord (h.isWord_of_head? hc))
    fun _ hc => isBlank_of_isWord (h.isWord_of_getLast? hc)

end IsIdentifier

end DesignGraph.Text
