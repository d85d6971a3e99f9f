import DesignGraph.Proofs.Text.Identifiers
import Mathlib.Data.List.Basic

/-!
# What trimming leaves

A trimmed text holds characters of the text alone, and neither of its ends is a character
that is trimmed away. A text with proper ends stays whole, and what stands around it is
trimmed by itself.
-/
namespace DesignGraph.Text

variable {p : Char → Bool} {text : List Char}

theorem dropEndWhile_isPrefix (p : Char → Bool) (text : List Char) :
    dropEndWhile p text <+: text := by
  rw [← List.reverse_suffix, dropEndWhile, List.reverse_reverse]
  exact List.dropWhile_suffix p

/-- Trimming leaves one run of the text. -/
theorem trimWhile_isInfix (p : Char → Bool) (text : List Char) : trimWhile p text <:+: text :=
  (dropEndWhile_isPrefix p _).isInfix.trans (List.dropWhile_suffix p).isInfix

theorem dropEndWhile_subset (p : Char → Bool) (text : List Char) : dropEndWhile p text ⊆ text :=
  (dropEndWhile_isPrefix p text).subset

theorem trimWhile_subset (p : Char → Bool) (text : List Char) : trimWhile p text ⊆ text :=
  (trimWhile_isInfix p text).subset

theorem trim_subset (text : List Char) : trim text ⊆ text := trimWhile_subset isBlank text

theorem trimStart_subset (text : List Char) : trimStart text ⊆ text :=
  (List.dropWhile_sublist isBlank).subset

theorem getLast?_dropEndWhile {c : Char} (h : (dropEndWhile p text).getLast? = some c) :
    p c = false := by
  rw [dropEndWhile, List.getLast?_reverse] at h
  have hhead := List.head?_dropWhile_not p text.reverse
  rw [h] at hhead
  simpa using hhead

/-- Trimming the end of a text leaves its first character, unless nothing is left. -/
theorem head?_dropEndWhile {c : Char} (h : (dropEndWhile p text).head? = some c) :
    text.head? = some c := by
  obtain ⟨dropped, hdropped⟩ := dropEndWhile_isPrefix p text
  rw [← hdropped, List.head?_append, h]
  rfl

theorem head?_trimWhile {c : Char} (h : (trimWhile p text).head? = some c) : p c = false := by
  have hhead := List.head?_dropWhile_not p text
  rw [head?_dropEndWhile h] at hhead
  simpa using hhead

theorem getLast?_trimWhile {c : Char} (h : (trimWhile p text).getLast? = some c) : p c = false :=
  getLast?_dropEndWhile h

theorem trimWhile_trimWhile (p : Char → Bool) (text : List Char) :
    trimWhile p (trimWhile p text) = trimWhile p text :=
  trimWhile_eq_self (fun _ => head?_trimWhile) fun _ => getLast?_trimWhile

theorem mem_dropWhile_of_neg {c : Char} (h : c ∈ text) (hc : p c = false) :
    c ∈ text.dropWhile p := by
  rw [← List.takeWhile_append_dropWhile (p := p) (l := text), List.mem_append] at h
  refine h.resolve_left fun hm => ?_
  rw [List.mem_takeWhile_imp hm] at hc
  cases hc

/-- Only characters of the class are trimmed away. -/
theorem mem_trimWhile_of_neg {c : Char} (h : c ∈ text) (hc : p c = false) :
    c ∈ trimWhile p text := by
  rw [trimWhile, dropEndWhile, List.mem_reverse]
  exact mem_dropWhile_of_neg (List.mem_reverse.mpr (mem_dropWhile_of_neg h hc)) hc

/-- What is dropped from the end stands after what is left. -/
theorem exists_dropEndWhile (p : Char → Bool) (text : List Char) :
    ∃ back, text = dropEndWhile p text ++ back ∧ ∀ c ∈ back, p c = true := by
  refine ⟨(text.reverse.takeWhile p).reverse, ?_,
    fun c hc => List.mem_takeWhile_imp (List.mem_reverse.mp hc)⟩
  rw [dropEndWhile, ← List.reverse_append, List.takeWhile_append_dropWhile, List.reverse_reverse]

/-- What is trimmed away stands around what is left. -/
theorem exists_trimWhile (p : Char → Bool) (text : List Char) :
    ∃ front back, text = front ++ (trimWhile p text ++ back) ∧
      (∀ c ∈ front, p c = true) ∧ ∀ c ∈ back, p c = true := by
  obtain ⟨back, htext, hback⟩ := exists_dropEndWhile p (text.dropWhile p)
  refine ⟨text.takeWhile p, back, ?_, fun c hc => List.mem_takeWhile_imp hc, hback⟩
  rw [trimWhile, ← htext, List.takeWhile_append_dropWhile]

section Around

variable {core : List Char} (hne : core ≠ [])
include hne

theorem dropWhile_append_of_head? (hhead : ∀ c, core.head? = some c → p c = false)
    (front : List Char) : (front ++ core).dropWhile p = front.dropWhile p ++ core := by
  obtain ⟨c, rest, rfl⟩ := List.exists_cons_of_ne_nil hne
  have hcore : (c :: rest).dropWhile p = c :: rest := by simp [hhead c rfl]
  rw [List.dropWhile_append]
  split
  · rename_i hempty
    rw [hcore, List.isEmpty_iff.mp hempty, List.nil_append]
  · rfl

theorem dropEndWhile_append_of_getLast? (hlast : ∀ c, core.getLast? = some c → p c = false)
    (back : List Char) : dropEndWhile p (core ++ back) = core ++ dropEndWhile p back := by
  have hhead : ∀ c, core.reverse.head? = some c → p c = false := by
    intro c hc
    exact hlast c (by rwa [List.head?_reverse] at hc)
  rw [dropEndWhile, List.reverse_append,
    dropWhile_append_of_head? (by simpa using hne) hhead, List.reverse_append,
    List.reverse_reverse, dropEndWhile]

/-- What stands around a text with proper ends is trimmed by itself. -/
theorem trimWhile_append (hhead : ∀ c, core.head? = some c → p c = false)
    (hlast : ∀ c, core.getLast? = some c → p c = false) (front back : List Char) :
    trimWhile p (front ++ (core ++ back)) =
      front.dropWhile p ++ (core ++ dropEndWhile p back) := by
  have hstart : (front ++ (core ++ back)).dropWhile p = front.dropWhile p ++ (core ++ back) := by
    refine dropWhile_append_of_head? (by simp [hne]) (fun c hc => hhead c ?_) front
    rwa [List.head?_append_of_ne_nil core hne] at hc
  have hend : ∀ c, (front.dropWhile p ++ core).getLast? = some c → p c = false := by
    intro c hc
    rw [List.getLast?_append_of_ne_nil _ hne] at hc
    exact hlast c hc
  rw [trimWhile, hstart, ← List.append_assoc,
    dropEndWhile_append_of_getLast? (by simp [hne]) hend, List.append_assoc]

/-- With nothing but characters of the class around it, such a text is what is left. -/
theorem trimWhile_append_of_forall (hhead : ∀ c, core.head? = some c → p c = false)
    (hlast : ∀ c, core.getLast? = some c → p c = false) {front back : List Char}
    (hfront : ∀ c ∈ front, p c = true) (hback : ∀ c ∈ back, p c = true) :
    trimWhile p (front ++ (core ++ back)) = core := by
  have hend : dropEndWhile p back = [] := by
    rw [dropEndWhile, List.reverse_eq_nil_iff, List.dropWhile_eq_nil_iff]
    exact fun c hc => hback c (List.mem_reverse.mp hc)
  rw [trimWhile_append hne hhead hlast, List.dropWhile_eq_nil_iff.mpr hfront, hend,
    List.nil_append, List.append_nil]

end Around

/-! ## Trimmed strings -/

/-- Neither end of the name is blank, and the name is not all blank. -/
def IsTrimmed (name : String) : Prop := trimmed name = name ∧ trimmed name ≠ ""

instance (name : String) : Decidable (IsTrimmed name) := inferInstanceAs (Decidable (_ ∧ _))

theorem isTrimmed_iff {name : String} :
    IsTrimmed name ↔ trim name.toList = name.toList ∧ name.toList ≠ [] := by
  rw [IsTrimmed, trimmed, ← String.toList_inj, String.toList_ofList]
  refine and_congr_right fun htrim => ?_
  rw [htrim, String.ofList_toList, ne_eq, ← String.toList_inj]
  rfl

theorem isTrimmed_of_isIdentifier {name : String} (h : IsIdentifier name.toList) :
    IsTrimmed name :=
  isTrimmed_iff.mpr ⟨h.trim_eq, h.1⟩

/-- A trimmed string is one that has proper ends. -/
theorem isTrimmed_iff_ends {name : String} :
    IsTrimmed name ↔ name.toList ≠ [] ∧ (∀ c, name.toList.head? = some c → isBlank c = false) ∧
      ∀ c, name.toList.getLast? = some c → isBlank c = false := by
  rw [isTrimmed_iff]
  constructor
  · rintro ⟨htrim, hne⟩
    refine ⟨hne, fun c hc => ?_, fun c hc => ?_⟩
    · exact head?_trimWhile (htrim.symm ▸ hc)
    · exact getLast?_trimWhile (htrim.symm ▸ hc)
  · rintro ⟨hne, hhead, hlast⟩
    exact ⟨trimWhile_eq_self hhead hlast, hne⟩

end DesignGraph.Text
