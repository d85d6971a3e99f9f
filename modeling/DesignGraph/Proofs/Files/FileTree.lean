import DesignGraph.Files.FileTree
import Mathlib.Data.List.Basic
import Mathlib.Data.List.Induction

/-!
# What stands where after a change

After something is put at a place, erased or moved, the tree is told place by place. In a
rooted tree every place is in a directory, so below a file or an empty place there is
nothing, and what is moved there does not mix with anything.
-/
namespace DesignGraph.Files.FileTree

/-- All places but one are as they were. -/
structure ChangesOnly (place : Place) (before after : FileTree) : Prop where
  start : after.start = before.start
  entry? : ∀ other, other ≠ place → after.entry? other = before.entry? other
  refusal? : ∀ other, other ≠ place → after.refusal? other = before.refusal? other

/-- All places are as they were. -/
structure Same (before after : FileTree) : Prop where
  start : after.start = before.start
  entry? : ∀ place, after.entry? place = before.entry? place
  refusal? : ∀ place, after.refusal? place = before.refusal? place

theorem Same.refl (t : FileTree) : Same t t := ⟨rfl, fun _ => rfl, fun _ => rfl⟩

theorem ChangesOnly.refl (place : Place) (t : FileTree) : ChangesOnly place t t :=
  ⟨rfl, fun _ _ => rfl, fun _ _ => rfl⟩

theorem ChangesOnly.trans {place : Place} {a b c : FileTree} (hab : ChangesOnly place a b)
    (hbc : ChangesOnly place b c) : ChangesOnly place a c where
  start := hbc.start.trans hab.start
  entry? other h := (hbc.entry? other h).trans (hab.entry? other h)
  refusal? other h := (hbc.refusal? other h).trans (hab.refusal? other h)

theorem Same.changesOnly {a b : FileTree} (h : Same a b) (place : Place) : ChangesOnly place a b :=
  ⟨h.start, fun other _ => h.entry? other, fun other _ => h.refusal? other⟩

@[simp] theorem at_nil (t : FileTree) : t.entry? [] = some .directory := rfl

theorem at_of_ne_nil (t : FileTree) {place : Place} (h : place ≠ []) :
    t.entry? place = (t.entries.find? fun e => decide (e.1 = place)).map Prod.snd := if_neg h

theorem at_put (t : FileTree) {place : Place} (hp : place ≠ []) (entry : Entry) (other : Place) :
    FileTree.entry? (t.put place entry) other =
      if other = place then some entry else t.entry? other := by
  by_cases ho : other = []
  · rw [ho, at_nil, at_nil, if_neg hp.symm]
  rw [at_of_ne_nil _ ho, at_of_ne_nil _ ho, put, List.find?_cons]
  by_cases h : other = place
  · simp [h]
  · have hother : ∀ e : Place × Entry, (e.1 ≠ place ∧ e.1 = other) ↔ e.1 = other :=
      fun e => ⟨And.right, fun he => ⟨he ▸ h, he⟩⟩
    simp [h, Ne.symm h, List.find?_filter, hother]

theorem at_erase (t : FileTree) {place : Place} (hp : place ≠ []) (other : Place) :
    FileTree.entry? (t.erase place) other =
      if other = place then none else t.entry? other := by
  by_cases ho : other = []
  · rw [ho, at_nil, at_nil, if_neg hp.symm]
  rw [at_of_ne_nil _ ho, at_of_ne_nil _ ho, erase, List.find?_filter]
  by_cases h : other = place
  · simp [h]
  · have hother : ∀ e : Place × Entry, (e.1 ≠ place ∧ e.1 = other) ↔ e.1 = other :=
      fun e => ⟨And.right, fun he => ⟨he ▸ h, he⟩⟩
    simp [h, hother]

theorem isSome_at_of_mem {t : FileTree} {e : Place × Entry} (he : e ∈ t.entries) :
    (t.entry? e.1).isSome := by
  by_cases hp : e.1 = []
  · rw [hp]
    rfl
  · rw [at_of_ne_nil t hp, Option.isSome_map, List.find?_isSome]
    exact ⟨e, he, decide_eq_true rfl⟩

theorem exists_mem_of_isSome_at {t : FileTree} {place : Place} (hp : place ≠ [])
    (h : (t.entry? place).isSome) : ∃ e ∈ t.entries, e.1 = place := by
  rw [at_of_ne_nil t hp, Option.isSome_map, List.find?_isSome] at h
  obtain ⟨e, he, heq⟩ := h
  exact ⟨e, he, of_decide_eq_true heq⟩

/-! ## Rooted trees -/

/-- Whatever stands at a place but the root stands in a directory. -/
def Rooted (t : FileTree) : Prop :=
  ∀ place, place ≠ [] → (t.entry? place).isSome → t.entry? place.dropLast = some .directory

theorem Rooted.congr {a b : FileTree} (h : a.Rooted) (hs : Same a b) : b.Rooted := by
  intro place hp hsome
  rw [hs.entry?] at hsome ⊢
  exact h place hp hsome

/-- It is enough that every entry of the tree is in a directory. -/
theorem rooted_of_entries {t : FileTree}
    (h : ∀ e ∈ t.entries, t.entry? e.1.dropLast = some .directory) : t.Rooted := by
  intro place hp hsome
  obtain ⟨e, he, rfl⟩ := exists_mem_of_isSome_at hp hsome
  exact h e he

/-- Above whatever stands somewhere there are directories only. -/
theorem Rooted.directory_above {t : FileTree} (h : t.Rooted) {place below : Place}
    (hne : below ≠ []) (hsome : (t.entry? (place ++ below)).isSome) :
    t.entry? place = some .directory := by
  induction below using List.reverseRecOn with
  | nil => exact absurd rfl hne
  | append_singleton upper name ih =>
    have hup : t.entry? (place ++ upper) = some .directory := by
      have hdrop : (place ++ (upper ++ [name])).dropLast = place ++ upper := by
        rw [← List.append_assoc, List.dropLast_concat]
      rw [← hdrop]
      exact h _ (by simp) hsome
    cases upper with
    | nil => rwa [List.append_nil] at hup
    | cons first rest => exact ih (List.cons_ne_nil first rest) (by rw [hup]; rfl)

/-- Where no directory stands, nothing stands below. -/
theorem Rooted.nothing_below {t : FileTree} (h : t.Rooted) {place below : Place}
    (hd : t.entry? place ≠ some .directory) (hne : below ≠ []) :
    t.entry? (place ++ below) = none := by
  cases he : t.entry? (place ++ below) with
  | none => rfl
  | some entry => exact absurd (h.directory_above hne (by rw [he]; rfl)) hd

/-- A directory is neither at a place where none stands nor below one. -/
theorem Rooted.not_prefix_of_directory {t : FileTree} (h : t.Rooted) {place other : Place}
    (hp : t.entry? place ≠ some .directory) (ho : t.entry? other = some .directory) :
    ¬ place <+: other := by
  rintro ⟨below, rfl⟩
  rcases eq_or_ne below [] with rfl | hbelow
  · rw [List.append_nil] at ho
    exact hp ho
  · rw [h.nothing_below hp hbelow] at ho
    cases ho

/-- A file is put where no directory stands, in a directory. -/
theorem Rooted.put_file {t : FileTree} (h : t.Rooted) {place : Place} (hp : place ≠ [])
    (hup : t.entry? place.dropLast = some .directory) (hd : t.entry? place ≠ some .directory)
    (content : Text.Bytes) (executable : Bool) :
    (t.put place (.file content executable)).Rooted := by
  intro other ho hsome
  have habove : t.entry? other.dropLast = some .directory := by
    by_cases he : other = place
    · rw [he, hup]
    · rw [at_put t hp, if_neg he] at hsome
      exact h other ho hsome
  rw [at_put t hp, if_neg]
  · exact habove
  · rintro he
    exact hd (he ▸ habove)

/-! ## Moving -/

theorem relocate_append (source target below : Place) :
    relocate source target (source ++ below) = target ++ below := by
  rw [relocate, List.isPrefixOf?_eq_some_iff_append_eq.mpr rfl]

theorem relocate_elsewhere {source place : Place} (h : ¬ source <+: place) (target : Place) :
    relocate source target place = place := by
  rw [relocate]
  cases hp : source.isPrefixOf? place with
  | none => rfl
  | some below => exact absurd ⟨below, List.isPrefixOf?_eq_some_iff_append_eq.mp hp⟩ h

theorem at_move_eq_find? (t : FileTree) (source target : Place) {place : Place} (hp : place ≠ []) :
    FileTree.entry? (t.move source target) place =
      (t.entries.find? fun e =>
        decide (e.1 ≠ target ∧ relocate source target e.1 = place)).map Prod.snd := by
  rw [at_of_ne_nil _ hp, move, List.find?_map, List.find?_filter, Option.map_map]
  simp only [Function.comp_def, decide_eq_true_eq]

/-- What a move of one place to another, with all below it, does to every place. -/
structure Moved (source target : Place) (before after : FileTree) : Prop where
  start : after.start = before.start
  arrived : ∀ below, after.entry? (target ++ below) = before.entry? (source ++ below)
  gone : ∀ below, after.entry? (source ++ below) = none
  elsewhere : ∀ place, ¬ source <+: place → ¬ target <+: place →
    after.entry? place = before.entry? place
  refusal? : ∀ place, ¬ source <+: place → ¬ target <+: place →
    after.refusal? place = before.refusal? place

theorem find?_congr {α : Type} {p q : α → Bool} {l : List α} (h : ∀ a ∈ l, p a = q a) :
    l.find? p = l.find? q := by
  induction l with
  | nil => rfl
  | cons a rest ih =>
    rw [List.find?_cons, List.find?_cons, h a List.mem_cons_self,
      ih fun b hb => h b (List.mem_cons_of_mem a hb)]

/-- A place that is neither below the one nor below the other is where it was. -/
theorem relocate_eq_iff {source target place other : Place} (hs : ¬ source <+: place)
    (ht : ¬ target <+: place) : relocate source target other = place ↔ other = place := by
  by_cases hother : source <+: other
  · obtain ⟨below, rfl⟩ := hother
    rw [relocate_append]
    refine ⟨fun h => absurd ⟨below, h⟩ ht, fun h => absurd ⟨below, h⟩ hs⟩
  · rw [relocate_elsewhere hother]

/-- Of two places neither of which is below the other, one is moved to the other, where
nothing stands below. -/
theorem moved_move {t : FileTree} {source target : Place} (hst : ¬ source <+: target)
    (hts : ¬ target <+: source) (hbelow : ∀ e ∈ t.entries, target <+: e.1 → e.1 = target) :
    Moved source target t (t.move source target) := by
  have hsource : source ≠ [] := fun h => hst (h ▸ List.nil_prefix)
  have htarget : target ≠ [] := fun h => hts (h ▸ List.nil_prefix)
  refine ⟨rfl, ?_, ?_, ?_, ?_⟩
  · intro below
    rw [at_move_eq_find? t source target (by simp [htarget]),
      at_of_ne_nil t (by simp [hsource])]
    refine congrArg (Option.map Prod.snd) (find?_congr fun e he => decide_eq_decide.mpr ?_)
    constructor
    · rintro ⟨hne, hr⟩
      by_cases hp : source <+: e.1
      · obtain ⟨rest, hrest⟩ := hp
        rw [← hrest, relocate_append, List.append_cancel_left_eq] at hr
        rw [← hrest, hr]
      · rw [relocate_elsewhere hp] at hr
        exact absurd (hbelow e he ⟨below, hr.symm⟩) hne
    · intro h
      rw [h]
      refine ⟨?_, relocate_append source target below⟩
      intro heq
      exact hst ⟨below, heq⟩
  · intro below
    rw [at_move_eq_find? t source target (by simp [hsource]), List.find?_eq_none.mpr]
    · rfl
    · intro e _
      rw [decide_eq_true_eq]
      rintro ⟨-, hr⟩
      by_cases hp : source <+: e.1
      · -- what lay below the source now lies below the target, and the two are apart
        obtain ⟨rest, hrest⟩ := hp
        rw [← hrest, relocate_append] at hr
        have hboth : source <+: target ++ rest := ⟨below, hr.symm⟩
        rcases List.prefix_or_prefix_of_prefix ⟨rest, rfl⟩ hboth with h | h
        · exact hts h
        · exact hst h
      · rw [relocate_elsewhere hp] at hr
        exact hp ⟨below, hr.symm⟩
  · intro place hs ht
    by_cases hp : place = []
    · rw [hp, at_nil, at_nil]
    rw [at_move_eq_find? t source target hp, at_of_ne_nil t hp]
    refine congrArg (Option.map Prod.snd) (find?_congr fun e _ => decide_eq_decide.mpr ?_)
    rw [relocate_eq_iff hs ht]
    refine ⟨And.right, fun h => ⟨?_, h⟩⟩
    rintro rfl
    exact ht (h ▸ List.prefix_rfl)
  · intro place hs ht
    simp only [FileTree.refusal?, move, List.find?_map, Option.map_map, Function.comp_def,
      relocate_eq_iff hs ht]

end DesignGraph.Files.FileTree
