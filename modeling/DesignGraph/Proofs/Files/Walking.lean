import DesignGraph.Proofs.Files.FileTree

/-!
# Paths and places

Where a path leads depends on its text and on where it starts; the tree only decides
whether it can be walked. So a path has a place, and an operation on the path changes
nothing but that place. Renaming needs two: the entry at the place of one path, with all
below it, comes to lie at the place of the other.
-/
namespace DesignGraph.Files.FileTree

/-- The place that names lead to, whatever is there. -/
def follow (place : Place) : List String → Place
  | [] => place
  | part :: rest =>
    if part = "." then follow place rest
    else if part = ".." then follow place.dropLast rest
    else follow (place ++ [part]) rest

/-- The place of a path. -/
def placeOf (t : FileTree) (path : String) : Place := follow (t.origin path) (parts path)

theorem origin_congr {a b : FileTree} (h : b.start = a.start) (path : String) :
    b.origin path = a.origin path := by rw [origin, origin, h]

theorem placeOf_congr {a b : FileTree} (h : b.start = a.start) (path : String) :
    b.placeOf path = a.placeOf path := by rw [placeOf, placeOf, origin_congr h]

theorem follow_append (place : Place) (xs ys : List String) :
    follow place (xs ++ ys) = follow (follow place xs) ys := by
  induction xs generalizing place with
  | nil => rfl
  | cons part rest ih =>
    rw [List.cons_append, follow, follow]
    split
    · exact ih place
    · split
      · exact ih place.dropLast
      · exact ih (place ++ [part])

theorem follow_name {name : String} (hdot : name ≠ ".") (hup : name ≠ "..") (place : Place) :
    follow place [name] = place ++ [name] := by
  rw [follow, if_neg hdot, if_neg hup, follow]

/-- A step that is walked starts in a directory and leads where it is followed to. -/
theorem walk_cons {t : FileTree} {place found : Place} {part : String} {rest : List String}
    (h : t.walk place (part :: rest) = .ok found) :
    t.entry? place = some .directory ∧ t.walk (follow place [part]) rest = .ok found := by
  rw [walk] at h
  split at h
  · rename_i hd
    refine ⟨hd, ?_⟩
    split at h
    · rename_i hdot
      rwa [hdot]
    · rename_i hdot
      split at h
      · rename_i hup
        rwa [hup]
      · rename_i hup
        rw [follow_name hdot hup]
        split at h
        · cases h
        · split at h
          · exact h
          · cases h
  · cases h
  · cases h

theorem eq_follow_of_walk {t : FileTree} {place found : Place} {names : List String}
    (h : t.walk place names = .ok found) : found = follow place names := by
  induction names generalizing place with
  | nil =>
    rw [walk] at h
    exact (Except.ok.inj h).symm
  | cons part rest ih =>
    obtain ⟨-, hrest⟩ := walk_cons h
    rw [ih hrest, ← follow_append]
    rfl

theorem walk_append (t : FileTree) (place : Place) (xs ys : List String) :
    t.walk place (xs ++ ys) = (t.walk place xs).bind fun found => t.walk found ys := by
  induction xs generalizing place with
  | nil => rfl
  | cons part rest ih =>
    rw [List.cons_append, walk, walk]
    split
    · split
      · exact ih place
      · split
        · exact ih place.dropLast
        · split
          · rfl
          · split
            · exact ih (place ++ [part])
            · rfl
    · rfl
    · rfl

/-- A walk over joined names is a walk over the first and then one over the second. -/
theorem walk_append_eq_ok {t : FileTree} {place found : Place} {xs ys : List String} :
    t.walk place (xs ++ ys) = .ok found ↔
      t.walk place xs = .ok (follow place xs) ∧ t.walk (follow place xs) ys = .ok found := by
  rw [walk_append]
  cases hx : t.walk place xs with
  | error fault =>
    refine ⟨fun h => ?_, fun h => ?_⟩
    · cases h
    · cases h.1
  | ok middle =>
    rw [eq_follow_of_walk hx]
    exact ⟨fun h => ⟨rfl, h⟩, fun h => h.2⟩

/-- A single dot insists on a directory. -/
theorem walk_dot {t : FileTree} {place found : Place} :
    t.walk place ["."] = .ok found ↔ t.entry? place = some .directory ∧ found = place := by
  constructor
  · intro h
    obtain ⟨hd, hrest⟩ := walk_cons h
    exact ⟨hd, eq_follow_of_walk hrest⟩
  · rintro ⟨hd, rfl⟩
    rw [walk, hd]
    rfl

/-- A name is walked in a directory that has it. -/
theorem walk_name {t : FileTree} {place found : Place} {name : String} (hdot : name ≠ ".")
    (hup : name ≠ "..") :
    t.walk place [name] = .ok found ↔ t.entry? place = some .directory ∧
      name.utf8ByteSize ≤ longestName ∧ (t.entry? (place ++ [name])).isSome ∧
      found = place ++ [name] := by
  rw [walk]
  cases hd : t.entry? place with
  | none => simp
  | some entry =>
    cases entry with
    | file content executable => simp
    | directory =>
      simp only [if_neg hdot, if_neg hup, true_and]
      by_cases hlong : longestName < name.utf8ByteSize
      · rw [if_pos hlong]
        refine ⟨fun h => ?_, fun h => absurd h.1 (Nat.not_le.mpr hlong)⟩
        cases h
      · rw [if_neg hlong]
        by_cases hs : (t.entry? (place ++ [name])).isSome
        · rw [if_pos hs, walk]
          refine ⟨fun h => ⟨Nat.le_of_not_lt hlong, hs, (Except.ok.inj h).symm⟩, fun h => ?_⟩
          rw [h.2.2]
        · rw [if_neg hs]
          refine ⟨fun h => ?_, fun h => absurd h.2.1 hs⟩
          cases h

/-- A walk is told by what stands at the places that it comes by. -/
theorem walk_congr {a b : FileTree} {place : Place} {names : List String}
    (h : ∀ first, first <+: names → b.entry? (follow place first) = a.entry? (follow place first)) :
    b.walk place names = a.walk place names := by
  induction names generalizing place with
  | nil => rfl
  | cons part rest ih =>
    have hplace : b.entry? place = a.entry? place := h [] List.nil_prefix
    have hrest : b.walk (follow place [part]) rest = a.walk (follow place [part]) rest := by
      refine ih fun first hfirst => ?_
      rw [← follow_append]
      exact h _ (List.prefix_cons_inj part |>.mpr hfirst)
    rw [walk, walk, hplace]
    by_cases hdot : part = "."
    · rw [follow, if_pos hdot, follow] at hrest
      simp only [if_pos hdot, hrest]
    by_cases hup : part = ".."
    · rw [follow, if_neg hdot, if_pos hup, follow] at hrest
      simp only [if_neg hdot, if_pos hup, hrest]
    have hnext := h [part] (List.prefix_cons_inj part |>.mpr List.nil_prefix)
    rw [follow_name hdot hup] at hnext hrest
    simp only [if_neg hdot, if_neg hup, hnext, hrest]

/-- Directories that stay let a walk go on as before, if something is at its end. -/
theorem walk_of_directories_stay {a b : FileTree}
    (h : ∀ place, a.entry? place = some .directory → b.entry? place = some .directory)
    {place found : Place} {names : List String} (hw : a.walk place names = .ok found)
    (hend : (b.entry? found).isSome) : b.walk place names = .ok found := by
  induction names generalizing place with
  | nil => exact hw
  | cons part rest ih =>
    obtain ⟨hplace, hrest⟩ := walk_cons hw
    have hb := ih hrest
    -- the next place is there as well: it is the last one or a directory that is walked on from
    have hnext : (b.entry? (follow place [part])).isSome := by
      cases rest with
      | nil => rwa [eq_follow_of_walk hrest] at hend
      | cons next more => rw [h _ (walk_cons hrest).1, Option.isSome_some]
    rw [walk, h place hplace]
    simp only
    by_cases hdot : part = "."
    · rw [if_pos hdot]
      simpa [follow, hdot] using hb
    by_cases hup : part = ".."
    · rw [if_neg hdot, if_pos hup]
      simpa [follow, hup] using hb
    rw [follow_name hdot hup] at hb hnext
    have hsize : ¬ longestName < part.utf8ByteSize := by
      rw [walk, hplace] at hw
      intro hlong
      simp [hdot, hup, hlong] at hw
    rw [if_neg hdot, if_neg hup, if_neg hsize, if_pos hnext, hb]

end DesignGraph.Files.FileTree
