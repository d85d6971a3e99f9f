import DesignGraph.Proofs.Json.ReadBack
import DesignGraph.Text.Blank

/-!
# The ends of a written value

A value is written without blanks around it: it begins and ends with a quote, a bracket or a
brace, with a letter of a word, or with a digit or sign of a number. None of these is a slash
either, so a value that stands for an address has neither blanks nor slashes to lose.
-/
namespace DesignGraph.Json

namespace Number

theorem isDigit_of_mem_digitChars {n : Nat} {c : Char} (h : c ∈ digitChars n) :
    c.isDigit = true :=
  Nat.isDigit_of_mem_toDigits (by decide) (by decide) h

theorem mem_positional {digits : List Char} {exponent : Int} {c : Char}
    (h : c ∈ positional digits exponent) : c ∈ digits ∨ c = '0' ∨ c = '.' := by
  unfold positional at h
  split at h
  · simp only [List.mem_cons, List.mem_append, List.mem_replicate] at h
    rcases h with h | h | h | h
    · exact .inr (.inl h)
    · exact .inr (.inr h)
    · exact .inr (.inl h.2)
    · exact .inl h
  · simp only [List.mem_append, List.mem_cons, List.mem_replicate] at h
    rcases h with (h | h) | h | h
    · exact .inl (List.mem_of_mem_take h)
    · exact .inr (.inl h.2)
    · exact .inr (.inr h)
    · split at h
      · exact .inr (.inl (List.mem_singleton.mp h))
      · exact .inl (List.mem_of_mem_drop h)

/-- The characters of numbers beside the digits. -/
def signs : List Char := ['-', '+', '.', 'e']

theorem mem_scientific {digits : List Char} {exponent : Int} {c : Char}
    (h : c ∈ scientific digits exponent) :
    c ∈ digits ∨ c ∈ digitChars exponent.natAbs ∨ c ∈ signs := by
  unfold scientific at h
  simp only [List.mem_append, List.mem_cons] at h
  rcases h with (h | h) | rfl | rfl | h
  · exact .inl (List.mem_of_mem_take h)
  · split at h
    · cases h
    · rcases List.mem_cons.mp h with rfl | h
      · exact .inr (.inr (by decide))
      · exact .inl (List.mem_of_mem_drop h)
  · exact .inr (.inr (by decide))
  · right
    right
    split <;> decide
  · exact .inr (.inl h)

theorem mem_binaryText {x : Decimal.Binary64} {c : Char} (h : c ∈ binaryText x) :
    c.isDigit = true ∨ c ∈ signs := by
  have hsign : c ∈ (if x.negative then ['-'] else []) → c ∈ signs := by
    intro hc
    split at hc
    · exact List.mem_singleton.mp hc ▸ List.mem_cons_self
    · cases hc
  unfold binaryText at h
  dsimp only at h
  split at h
  · rcases List.mem_append.mp h with h | h
    · exact .inr (hsign h)
    · simp only [List.mem_cons, List.not_mem_nil, or_false] at h
      rcases h with rfl | rfl | rfl <;> decide
  · rcases List.mem_append.mp h with h | h
    · exact .inr (hsign h)
    · split at h
      · rcases mem_positional h with h | rfl | rfl
        · exact .inl (isDigit_of_mem_digitChars h)
        · exact .inl rfl
        · exact .inr (by decide)
      · rcases mem_scientific h with h | h | h
        · exact .inl (isDigit_of_mem_digitChars h)
        · exact .inl (isDigit_of_mem_digitChars h)
        · exact .inr h

/-- A number is written in digits and signs. -/
theorem mem_text {n : Number} {c : Char} (h : c ∈ n.text) : c.isDigit = true ∨ c ∈ signs := by
  rcases n with (n | n) | x
  · exact .inl (isDigit_of_mem_digitChars h)
  · rcases List.mem_cons.mp h with h | h
    · exact .inr (h ▸ List.mem_cons_self)
    · exact .inl (isDigit_of_mem_digitChars h)
  · exact mem_binaryText h

end Number

theorem getLast?_writeItems (items : List Value) : (writeItems items).getLast? = some ']' := by
  induction items with
  | nil => rfl
  | cons item rest ih =>
    cases rest with
    | nil => rw [writeItems, List.getLast?_concat]
    | cons next more =>
      rw [writeItems_cons_cons, List.getLast?_append, List.getLast?_cons, ih]
      rfl

theorem getLast?_writeMembers (members : List (String × Value)) :
    (writeMembers members).getLast? = some '\x7d' := by
  induction members with
  | nil => rfl
  | cons member rest ih =>
    obtain ⟨key, value⟩ := member
    cases rest with
    | nil => rw [writeMembers, List.getLast?_concat]
    | cons next more =>
      rw [writeMembers_cons_cons, List.getLast?_append, List.getLast?_cons, List.getLast?_append,
        List.getLast?_cons, ih]
      rfl

/-- No blank and no slash. -/
def IsProper (c : Char) : Prop := Text.isBlank c = false ∧ c ≠ '/'

instance (c : Char) : Decidable (IsProper c) := inferInstanceAs (Decidable (_ ∧ _))

theorem isProper_of_isDigit {c : Char} (h : c.isDigit = true) : IsProper c := by
  have hrange : 48 ≤ c.toNat ∧ c.toNat ≤ 57 := by
    simpa [Char.isDigit, UInt32.le_iff_toNat_le] using h
  constructor
  · rw [Text.isBlank, Bool.eq_false_iff]
    intro hblank
    simp only [Bool.or_eq_true, Bool.and_eq_true, decide_eq_true_eq, beq_iff_eq] at hblank
    omega
  · rintro rfl
    exact absurd h (by decide)

theorem isProper_of_mem_text {n : Number} {c : Char} (h : c ∈ n.text) : IsProper c := by
  rcases n.mem_text h with hdigit | hsign
  · exact isProper_of_isDigit hdigit
  · simp only [Number.signs, List.mem_cons, List.not_mem_nil, or_false] at hsign
    rcases hsign with rfl | rfl | rfl | rfl <;> decide

/-- A written value begins and ends with proper characters. -/
theorem Value.isProper_of_end {value : Value} {c : Char}
    (h : value.write.head? = some c ∨ value.write.getLast? = some c) : IsProper c := by
  have hends {first last : Char} (hfirst : value.write.head? = some first)
      (hlast : value.write.getLast? = some last) (hproper : IsProper first ∧ IsProper last) :
      IsProper c := by
    rw [hfirst, hlast] at h
    rcases h with h | h
    · exact Option.some.inj h ▸ hproper.1
    · exact Option.some.inj h ▸ hproper.2
  cases value with
  | null => exact hends rfl rfl (by decide)
  | bool b => cases b <;> exact hends rfl rfl (by decide)
  | number n => exact isProper_of_mem_text (h.elim List.mem_of_head? List.mem_of_getLast?)
  | string s => exact hends rfl List.getLast?_concat (by decide)
  | array items =>
    have hlast : (Value.array items).write.getLast? = some ']' := by
      rw [Value.write, List.getLast?_cons, getLast?_writeItems]
      rfl
    exact hends rfl hlast (by decide)
  | object members =>
    have hlast : (Value.object members).write.getLast? = some '\x7d' := by
      rw [Value.write, List.getLast?_cons, getLast?_writeMembers]
      rfl
    exact hends rfl hlast (by decide)

end DesignGraph.Json
