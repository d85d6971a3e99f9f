import DesignGraph.Text.Trim
import DesignGraph.Text.Word
import Mathlib.Data.List.TakeWhile

/-!
# Blanks and words

No blank is a word character, and blanks at the end of a text do not survive trimming.
-/
namespace DesignGraph.Text

def blankCodes : List Nat :=
  [9, 10, 11, 12, 13, 0x20, 0x85, 0xA0, 0x1680, 0x2000, 0x2001, 0x2002, 0x2003, 0x2004, 0x2005,
    0x2006, 0x2007, 0x2008, 0x2009, 0x200A, 0x2028, 0x2029, 0x202F, 0x205F, 0x3000]

theorem toNat_mem_blankCodes {c : Char} (h : isBlank c = true) : c.toNat ∈ blankCodes := by
  simp only [isBlank, Bool.or_eq_true, Bool.and_eq_true, decide_eq_true_eq, beq_iff_eq] at h
  simp only [blankCodes, List.mem_cons, List.not_mem_nil, or_false]
  omega

theorem isWord_of_isBlank {c : Char} (h : isBlank c = true) : isWord c = false := by
  have hcodes : ∀ n ∈ blankCodes, isWord (Char.ofNat n) = false := by decide +kernel
  have hc := hcodes c.toNat (toNat_mem_blankCodes h)
  rwa [Char.ofNat_toNat] at hc

theorem isBlank_of_isWord {c : Char} (h : isWord c = true) : isBlank c = false := by
  cases hb : isBlank c with
  | false => rfl
  | true => rw [isWord_of_isBlank hb] at h; cases h

theorem trimStart_eq_nil_iff {text : List Char} :
    trimStart text = [] ↔ ∀ c ∈ text, isBlank c = true :=
  List.dropWhile_eq_nil_iff

/-- What does not start with a blank is its own trimming at the start. -/
theorem trimStart_cons_of_neg {c : Char} (rest : List Char) (h : isBlank c = false) :
    trimStart (c :: rest) = c :: rest := by
  simp [trimStart, h]

theorem trimStart_append_of_ne_nil {text : List Char} (h : trimStart text ≠ [])
    (more : List Char) : trimStart (text ++ more) = trimStart text ++ more := by
  rw [trimStart, List.dropWhile_append, if_neg]
  · rfl
  · simpa [trimStart] using h

theorem trimStart_append_blank {text : List Char} (h : trimStart text = []) {c : Char}
    (hc : isBlank c = true) : trimStart (text ++ [c]) = [] := by
  rw [trimStart_eq_nil_iff] at h ⊢
  intro d hd
  rcases List.mem_append.mp hd with hd | hd
  · exact h d hd
  · rwa [List.mem_singleton.mp hd]

theorem trim_append_blank (text : List Char) {c : Char} (hc : isBlank c = true) :
    trim (text ++ [c]) = trim text := by
  change dropEndWhile isBlank (trimStart (text ++ [c])) = dropEndWhile isBlank (trimStart text)
  by_cases h : trimStart text = []
  · rw [trimStart_append_blank h hc, h]
  · rw [trimStart_append_of_ne_nil h, dropEndWhile_append_of_pos _ hc]

end DesignGraph.Text
