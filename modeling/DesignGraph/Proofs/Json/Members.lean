import DesignGraph.Json.Value
import Mathlib.Data.List.Nodup

/-!
# Members by their keys

Members that are put in one after the other stand in the order of their keys, each key once.
So a member is found by its key.
-/
namespace DesignGraph.Json

variable {α : Type} {key : String} {value : α} {members : List (String × α)}

theorem isSome_member?_iff : (member? key members).isSome = true ↔ key ∈ members.map Prod.fst := by
  rw [member?, Option.isSome_map, List.find?_isSome]
  simp only [beq_iff_eq, List.mem_map]

theorem member?_eq_none_iff : member? key members = none ↔ key ∉ members.map Prod.fst := by
  rw [← isSome_member?_iff, Bool.not_eq_true, Option.isSome_eq_false_iff, Option.isNone_iff_eq_none]

/-- A member is looked up by its key. -/
theorem member?_eq_lookup (key : String) (members : List (String × α)) :
    member? key members = members.lookup key := by
  induction members with
  | nil => rfl
  | cons first rest ih =>
    obtain ⟨k, v⟩ := first
    by_cases h : k = key
    · simp [member?, h]
    · have hkey : (key == k) = false := beq_eq_false_iff_ne.mpr fun heq => h heq.symm
      rw [List.lookup_cons, hkey, ← ih, member?, List.find?_cons_of_neg (by simpa using h), member?]

theorem Value.get?_eq_some_iff {value found : Value} :
    value.get? key = some found ↔
      ∃ members, value = .object members ∧ members.lookup key = some found := by
  cases value <;> simp [get?, member?_eq_lookup]

/-- The members stand in the order of their keys, and no key stands twice. -/
def KeysSorted (members : List (String × α)) : Prop := (members.map Prod.fst).Pairwise (· < ·)

theorem keysSorted_nil : KeysSorted ([] : List (String × α)) := List.Pairwise.nil

theorem KeysSorted.nodup (h : KeysSorted members) : (members.map Prod.fst).Nodup := by
  refine List.Pairwise.imp ?_ h
  rintro a _ hlt rfl
  exact String.lt_irrefl a hlt

theorem KeysSorted.member?_eq_some_iff (h : KeysSorted members) :
    member? key members = some value ↔ (key, value) ∈ members := by
  have hfound : ∀ found, member? key members = some found → (key, found) ∈ members := by
    intro found hm
    obtain ⟨⟨k, v⟩, hfind, rfl⟩ := Option.map_eq_some_iff.mp hm
    obtain rfl : k = key := by simpa using List.find?_some hfind
    exact List.mem_of_find?_eq_some hfind
  refine ⟨hfound value, fun hm => ?_⟩
  obtain ⟨found, hmember⟩ := Option.isSome_iff_exists.mp
    (isSome_member?_iff.mpr (List.mem_map_of_mem hm))
  have heq := List.inj_on_of_nodup_map h.nodup (hfound found hmember) hm rfl
  rw [hmember, (Prod.mk.inj heq).2]

theorem mem_keys_putMember {other : String} :
    other ∈ (putMember key value members).map Prod.fst ↔
      other = key ∨ other ∈ members.map Prod.fst := by
  induction members with
  | nil => simp [putMember]
  | cons first rest ih =>
    obtain ⟨k, v⟩ := first
    rw [putMember]
    split
    · simp
    · split
      · rename_i heq
        simp [heq]
      · rw [List.map_cons, List.mem_cons, ih, List.map_cons, List.mem_cons, or_left_comm]

/-- One more member leaves the keys in order. -/
theorem KeysSorted.putMember (h : KeysSorted members) (key : String) (value : α) :
    KeysSorted (putMember key value members) := by
  induction members with
  | nil => exact List.pairwise_singleton _ _
  | cons first rest ih =>
    obtain ⟨k, v⟩ := first
    obtain ⟨hfirst, hrest⟩ := List.pairwise_cons.mp h
    rw [Json.putMember]
    split
    · rename_i hlt
      refine List.pairwise_cons.mpr ⟨fun other hm => ?_, h⟩
      rcases List.mem_cons.mp hm with rfl | hm
      · exact hlt
      · exact String.lt_trans hlt (hfirst other hm)
    · rename_i hnot
      split
      · rename_i heq
        exact List.pairwise_cons.mpr ⟨fun other hm => heq ▸ hfirst other hm, hrest⟩
      · rename_i hne
        have hlt : k < key := by
          refine Classical.byContradiction fun hle => hne ?_
          exact String.le_antisymm (String.not_lt.mp hle) (String.not_lt.mp hnot)
        refine List.pairwise_cons.mpr ⟨fun other hm => ?_, ih hrest⟩
        rcases mem_keys_putMember.mp hm with rfl | hm
        · exact hlt
        · exact hfirst other hm

end DesignGraph.Json
