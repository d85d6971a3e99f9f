import Mathlib.Data.List.Induction

/-!
# Lists in first-seen order

A list that takes each value at its end, unless it holds it already, keeps the first
occurrences of all values. Components, entity names and relations are collected so.
-/
namespace DesignGraph.FirstSeen

variable {α : Type} [DecidableEq α]

/-- The list with the value at its end, unless it is there already. -/
def addNew (l : List α) (a : α) : List α := if a ∈ l then l else l ++ [a]

theorem eraseDups_concat (l : List α) (a : α) : (l ++ [a]).eraseDups = addNew l.eraseDups a := by
  rw [List.eraseDups_append, List.cons_removeAll, addNew]
  by_cases h : a ∈ l <;> simp [h, List.removeAll, List.eraseDups_cons]

/-- What is new to a list comes after it, in the order of first occurrence. -/
theorem foldl_addNew (l as : List α) :
    as.foldl addNew l = l ++ as.eraseDups.filter (· ∉ l) := by
  induction as using List.reverseRecOn with
  | nil => simp
  | append_singleton as a ih =>
    rw [List.foldl_append, List.foldl_cons, List.foldl_nil, ih, eraseDups_concat]
    by_cases hl : a ∈ l
    · by_cases ha : a ∈ as <;> simp [addNew, hl, ha]
    · by_cases ha : a ∈ as <;> simp [addNew, hl, ha]

theorem foldl_addNew_nil (as : List α) : as.foldl addNew [] = as.eraseDups := by
  rw [foldl_addNew]
  simp

/-- The first occurrences of two lists are those of the first list and then those of the
second that the first does not have. -/
theorem eraseDups_append_eq_filter (as bs : List α) :
    (as ++ bs).eraseDups = as.eraseDups ++ bs.eraseDups.filter (· ∉ as.eraseDups) := by
  rw [← foldl_addNew_nil, List.foldl_append, foldl_addNew_nil, foldl_addNew]

theorem nodup_eraseDups (l : List α) : l.eraseDups.Nodup := by
  induction l using List.reverseRecOn with
  | nil => simp
  | append_singleton l a ih =>
    rw [eraseDups_concat, addNew]
    split
    · exact ih
    · rename_i hnew
      rw [List.nodup_append]
      refine ⟨ih, by simp, fun b hb c hc hbc => ?_⟩
      rw [List.mem_singleton] at hc
      exact hnew (hc ▸ hbc ▸ hb)

end DesignGraph.FirstSeen
