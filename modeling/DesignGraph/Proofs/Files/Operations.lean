import DesignGraph.Proofs.Files.Walking

/-!
# What the operations come to

A path that ends in a name names an entry of a directory. Looking it up, removing it and
renaming it are told by the place of the path, and an operation that fails has said so
before it changes anything.
-/
namespace DesignGraph.Files.FileTree

/-- A chain of operations that succeeds has succeeded in its first one. -/
theorem exists_of_bind_eq_ok {ε α β : Type} {x : Except ε α} {f : α → Except ε β} {b : β}
    (h : (x >>= f) = .ok b) : ∃ a, x = .ok a ∧ f a = .ok b := by
  cases x with
  | error fault => cases h
  | ok a => exact ⟨a, rfl, h⟩

/-- The path ends in a name, which is looked for in a directory that is there. -/
structure Names (t : FileTree) (path : String) (directory : Place) (name : String) : Prop where
  walkable : pathFault? path = none
  found : ∃ above, parts path = above ++ [name] ∧ t.walk (t.origin path) above = .ok directory
  holds : t.entry? directory = some .directory
  not_dot : name ≠ "."
  not_up : name ≠ ".."
  short : name.utf8ByteSize ≤ longestName

section Looking

variable {t : FileTree} {path name : String} {directory : Place}

theorem Names.placeOf_eq (h : t.Names path directory name) :
    t.placeOf path = directory ++ [name] := by
  obtain ⟨above, hparts, hwalk⟩ := h.found
  rw [placeOf, hparts, follow_append, ← eq_follow_of_walk hwalk, follow_name h.not_dot h.not_up]

/-- The path of a file, or of what is to become one, names an entry of a directory. -/
theorem target_eq_name_iff {slash : Bool} :
    t.target path = .ok ⟨directory, .name name, slash⟩ ↔
      t.Names path directory name ∧ slash = path.endsWith '/' := by
  rw [target]
  cases hf : pathFault? path with
  | some fault =>
    refine ⟨fun h => ?_, fun h => ?_⟩
    · cases h
    · exact absurd (hf.symm.trans h.1.walkable) (Option.some_ne_none fault)
  | none =>
    rcases List.eq_nil_or_concat (parts path) with hnil | ⟨above, last, hparts⟩
    · refine ⟨fun h => ?_, fun h => ?_⟩
      · obtain ⟨place, -, h⟩ := exists_of_bind_eq_ok h
        rw [hnil] at h
        cases h
      · obtain ⟨above, hparts, -⟩ := h.1.found
        exact absurd (hnil.symm.trans hparts) (by simp)
    · rw [List.concat_eq_append] at hparts
      simp only [hparts, List.dropLast_concat, List.getLast?_concat]
      constructor
      · intro h
        obtain ⟨place, hw, h⟩ := exists_of_bind_eq_ok h
        obtain ⟨habove, hdot⟩ := walk_append_eq_ok.mp hw
        obtain ⟨hholds, rfl⟩ := walk_dot.mp hdot
        split at h
        · cases h
        · rename_i hdots
          split at h
          · cases h
          · rename_i hshort
            cases h
            exact ⟨⟨hf, ⟨above, hparts, habove⟩, hholds, fun e => hdots (.inl e),
              fun e => hdots (.inr e), Nat.le_of_not_lt hshort⟩, rfl⟩
      · rintro ⟨h, rfl⟩
        obtain ⟨above', hparts', hwalk⟩ := h.found
        obtain ⟨rfl, hlast⟩ := List.append_inj' (hparts.symm.trans hparts') rfl
        obtain rfl : last = name := List.head_eq_of_cons_eq hlast
        have hw : t.walk (t.origin path) (above ++ ["."]) = .ok directory := by
          have hd := eq_follow_of_walk hwalk
          exact walk_append_eq_ok.mpr ⟨hd ▸ hwalk, walk_dot.mpr ⟨hd ▸ h.holds, hd⟩⟩
        rw [hw]
        simp only [bind, Except.bind]
        rw [if_neg (not_or.mpr ⟨h.not_dot, h.not_up⟩), if_neg (Nat.not_lt.mpr h.short)]
        rfl

/-- The parts that are walked to look a path up: a slash at its end insists on a directory. -/
def walked (path : String) : List String := parts path ++ if path.endsWith '/' then ["."] else []

theorem follow_walked (t : FileTree) (path : String) :
    follow (t.origin path) (walked path) = t.placeOf path := by
  rw [walked, follow_append, placeOf]
  by_cases hslash : path.endsWith '/'
  · rw [if_pos hslash, follow, if_pos rfl, follow]
  · rw [if_neg hslash, follow]

/-- What is looked up stands at the place of the path, and the path can be walked. -/
theorem lookup_eq_ok_iff {entry : Entry} :
    t.lookup path = .ok entry ↔ pathFault? path = none ∧
      t.walk (t.origin path) (walked path) = .ok (t.placeOf path) ∧
      t.entry? (t.placeOf path) = some entry := by
  rw [lookup, resolve, ← walked]
  cases hf : pathFault? path with
  | some fault =>
    refine ⟨fun h => ?_, fun h => ?_⟩
    · cases h
    · cases h.1
  | none =>
    cases hw : t.walk (t.origin path) (walked path) with
    | error fault =>
      refine ⟨fun h => ?_, fun h => ?_⟩
      · cases h
      · cases h.2.1
    | ok place =>
      obtain rfl : place = t.placeOf path := by rw [eq_follow_of_walk hw, follow_walked]
      simp only [bind, Except.bind, true_and]
      cases t.entry? (t.placeOf path) <;> simp

theorem at_of_lookup {entry : Entry} (h : t.lookup path = .ok entry) :
    t.entry? (t.placeOf path) = some entry := (lookup_eq_ok_iff.mp h).2.2

/-- A name without a slash after it is looked up in its directory. -/
theorem Names.lookup_eq_ok_iff (h : t.Names path directory name)
    (hslash : path.endsWith '/' = false) {entry : Entry} :
    t.lookup path = .ok entry ↔ t.entry? (t.placeOf path) = some entry := by
  refine ⟨at_of_lookup, fun he => ?_⟩
  obtain ⟨above, hparts, hwalk⟩ := h.found
  have hd := eq_follow_of_walk hwalk
  have hsome : (t.entry? (directory ++ [name])).isSome := by rw [← h.placeOf_eq, he]; rfl
  have hname : t.walk directory [name] = .ok (t.placeOf path) :=
    (walk_name h.not_dot h.not_up).mpr ⟨h.holds, h.short, hsome, h.placeOf_eq⟩
  have hall : t.walk (t.origin path) (above ++ [name]) = .ok (t.placeOf path) :=
    walk_append_eq_ok.mpr ⟨hd ▸ hwalk, hd ▸ hname⟩
  refine FileTree.lookup_eq_ok_iff.mpr ⟨h.walkable, ?_, he⟩
  rwa [walked, hslash, if_neg Bool.false_ne_true, List.append_nil, hparts]

/-- What can be looked up by a path that ends in a name is named by it. -/
theorem names_of_lookup {entry : Entry} (hl : t.lookup path = .ok entry) {above : List String}
    (hparts : parts path = above ++ [name]) (hdot : name ≠ ".") (hup : name ≠ "..") :
    t.Names path (follow (t.origin path) above) name := by
  obtain ⟨hf, hwalk, -⟩ := lookup_eq_ok_iff.mp hl
  rw [walked, hparts] at hwalk
  obtain ⟨habove, hname⟩ := walk_append_eq_ok.mp (walk_append_eq_ok.mp hwalk).1
  obtain ⟨hholds, hshort, -, -⟩ := (walk_name hdot hup).mp hname
  exact ⟨hf, ⟨above, hparts, habove⟩, hholds, hdot, hup, hshort⟩

theorem isFile_iff :
    t.isFile path = true ↔
      ∃ content executable, t.lookup path = .ok (.file content executable) := by
  rw [isFile]
  cases h : t.lookup path with
  | error fault => simp
  | ok entry => cases entry <;> simp

/-- A name is found in another tree where the directories are still directories. -/
theorem Names.of_directories_stay {after : FileTree} (h : t.Names path directory name)
    (hstart : after.start = t.start)
    (hd : ∀ place, t.entry? place = some .directory → after.entry? place = some .directory) :
    after.Names path directory name where
  walkable := h.walkable
  found := by
    obtain ⟨above, hparts, hwalk⟩ := h.found
    refine ⟨above, hparts, ?_⟩
    rw [origin_congr hstart]
    exact walk_of_directories_stay hd hwalk (by rw [hd directory h.holds, Option.isSome_some])
  holds := hd directory h.holds
  not_dot := h.not_dot
  not_up := h.not_up
  short := h.short

/-- An entry is found by a path in another tree too, where the directories are still
directories and the entry is where it was. -/
theorem lookup_of_directories_stay {after : FileTree} (hstart : after.start = t.start)
    (hd : ∀ place, t.entry? place = some .directory → after.entry? place = some .directory)
    {entry : Entry} (h : t.lookup path = .ok entry)
    (hplace : after.entry? (t.placeOf path) = some entry) : after.lookup path = .ok entry := by
  obtain ⟨hf, hwalk, -⟩ := lookup_eq_ok_iff.mp h
  refine lookup_eq_ok_iff.mpr ⟨hf, ?_, ?_⟩
  · rw [origin_congr hstart, placeOf_congr hstart]
    exact walk_of_directories_stay hd hwalk (by rw [hplace, Option.isSome_some])
  · rw [placeOf_congr hstart, hplace]

/-- Where one place has changed, and was no directory, everything else is still found. -/
theorem ChangesOnly.lookup {after : FileTree} {place : Place} (h : ChangesOnly place t after)
    (hplace : t.entry? place ≠ some .directory) {entry : Entry} (hl : t.lookup path = .ok entry)
    (hne : t.placeOf path ≠ place) : after.lookup path = .ok entry := by
  refine lookup_of_directories_stay h.start ?_ hl ?_
  · intro other hd
    rw [h.entry? other, hd]
    rintro rfl
    exact hplace hd
  · rw [h.entry? _ hne, at_of_lookup hl]

end Looking

/-! ## Writing and removing a file -/

section Files

variable {t after : FileTree} {path : String}

/-- What names a place can be put there: it is not the root. -/
theorem Names.placeOf_ne_nil {directory : Place} {name : String} (h : t.Names path directory name) :
    t.placeOf path ≠ [] := by
  rw [h.placeOf_eq]
  exact List.append_ne_nil_of_right_ne_nil directory (List.cons_ne_nil name [])

theorem removeFile_eq_ok (h : t.removeFile path = .ok after) :
    t.placeOf path ≠ [] ∧ after = t.erase (t.placeOf path) := by
  rw [removeFile] at h
  obtain ⟨⟨directory, last, slash⟩, ht, h⟩ := exists_of_bind_eq_ok h
  cases last with
  | dots => cases h
  | name name =>
    obtain ⟨hn, -⟩ := target_eq_name_iff.mp ht
    simp only [← hn.placeOf_eq] at h
    split at h
    · cases h
    · split_ifs at h
      split at h
      · cases h
      · cases h
      · exact ⟨hn.placeOf_ne_nil, (Except.ok.inj h).symm⟩

/-- By a path that ends in a name a file can be removed, unless the system refuses. -/
theorem removeFile_of_isFile (hfile : t.isFile path = true) {above : List String} {name : String}
    (hparts : parts path = above ++ [name]) (hdot : name ≠ ".") (hup : name ≠ "..")
    (hslash : path.endsWith '/' = false) :
    t.removeFile path = match t.refusal? (t.placeOf path) with
      | some fault => .error fault
      | none => .ok (t.erase (t.placeOf path)) := by
  obtain ⟨content, executable, hl⟩ := isFile_iff.mp hfile
  have hn := names_of_lookup hl hparts hdot hup
  rw [removeFile, target_eq_name_iff.mpr ⟨hn, rfl⟩]
  simp only [bind, Except.bind, ← hn.placeOf_eq, at_of_lookup hl, hslash, Bool.false_eq_true,
    and_false, if_false]
  cases t.refusal? (t.placeOf path) <;> rfl

/-- A file is written in a directory, where no directory stands. -/
theorem writeFile_eq_ok {content : Text.Bytes} (h : t.writeFile path content = .ok after) :
    ∃ executable, t.placeOf path ≠ [] ∧ t.entry? (t.placeOf path).dropLast = some .directory ∧
      t.entry? (t.placeOf path) ≠ some .directory ∧
      after = t.put (t.placeOf path) (.file content executable) := by
  rw [writeFile] at h
  obtain ⟨⟨directory, last, slash⟩, ht, h⟩ := exists_of_bind_eq_ok h
  cases last with
  | dots => cases h
  | name name =>
    obtain ⟨hn, -⟩ := target_eq_name_iff.mp ht
    have hholds : t.entry? (t.placeOf path).dropLast = some .directory := by
      rw [hn.placeOf_eq, List.dropLast_concat, hn.holds]
    simp only [← hn.placeOf_eq] at h
    split at h
    · cases h
    · rename_i old executable hfile
      split at h
      · cases h
      · refine ⟨executable, hn.placeOf_ne_nil, hholds, ?_, (Except.ok.inj h).symm⟩
        rw [hfile]
        exact nofun
    · rename_i hnone
      split at h
      · cases h
      · refine ⟨false, hn.placeOf_ne_nil, hholds, ?_, (Except.ok.inj h).symm⟩
        rw [hnone]
        exact nofun

/-- A file is written by a path that ends in a name. -/
theorem exists_names_of_writeFile {content : Text.Bytes}
    (h : t.writeFile path content = .ok after) : ∃ directory name, t.Names path directory name := by
  rw [writeFile] at h
  obtain ⟨⟨directory, last, slash⟩, ht, h⟩ := exists_of_bind_eq_ok h
  cases last with
  | dots => cases h
  | name name => exact ⟨directory, name, (target_eq_name_iff.mp ht).1⟩

/-- A file can be written by a path that ends in a name, where no directory stands. -/
theorem Names.writeFile {directory : Place} {name : String} (h : t.Names path directory name)
    (hslash : path.endsWith '/' = false) (hfree : t.entry? (t.placeOf path) ≠ some .directory)
    (content : Text.Bytes) :
    ∃ executable, t.writeFile path content =
      .ok (t.put (t.placeOf path) (.file content executable)) := by
  rw [FileTree.writeFile, target_eq_name_iff.mpr ⟨h, rfl⟩]
  simp only [bind, Except.bind, ← h.placeOf_eq, hslash, Bool.false_eq_true, if_false]
  cases ht : t.entry? (t.placeOf path) with
  | none => exact ⟨false, rfl⟩
  | some entry =>
    cases entry with
    | directory => exact absurd ht hfree
    | file old executable => exact ⟨executable, rfl⟩

/-- A file that is written changes the place of its path only. -/
theorem changesOnly_writeFile {content : Text.Bytes} (h : t.writeFile path content = .ok after) :
    ChangesOnly (t.placeOf path) t after := by
  obtain ⟨executable, hplace, -, -, rfl⟩ := writeFile_eq_ok h
  refine ⟨rfl, fun other hother => ?_, fun _ _ => rfl⟩
  rw [at_put t hplace, if_neg hother]

theorem Rooted.writeFile {content : Text.Bytes} (hr : t.Rooted)
    (h : t.writeFile path content = .ok after) : after.Rooted := by
  obtain ⟨executable, hplace, hholds, hfree, rfl⟩ := writeFile_eq_ok h
  exact hr.put_file hplace hholds hfree content executable

end Files

/-! ## Renaming -/

section Renaming

variable {t after : FileTree} {path newPath : String}

/-- What a rename that moves an entry has found. -/
structure Renames (t : FileTree) (path newPath : String) (entry : Entry) : Prop where
  old : ∃ directory name, t.Names path directory name
  new : ∃ directory name, t.Names newPath directory name
  moved : t.entry? (t.placeOf path) = some entry
  unheld : t.refusal? (t.placeOf path) = none
  slash : entry ≠ .directory → path.endsWith '/' = false ∧ newPath.endsWith '/' = false
  new_not_below : ¬ t.placeOf path <+: t.placeOf newPath
  old_not_below : ¬ t.placeOf newPath <+: t.placeOf path
  free : t.replaceFault? entry (t.placeOf newPath) = none

theorem Renames.no_directory {content : Text.Bytes} {executable : Bool}
    (h : t.Renames path newPath (.file content executable)) :
    t.entry? (t.placeOf path) ≠ some .directory := by
  rw [h.moved]
  exact nofun

theorem not_prefix_concat {source directory : Place} {name : String}
    (hne : source ≠ directory ++ [name]) (h : ¬ source.isPrefixOf directory = true) :
    ¬ source <+: directory ++ [name] := by
  rw [List.prefix_concat_iff]
  rintro (heq | hp)
  · exact hne heq
  · exact h (List.isPrefixOf_iff_prefix.mpr hp)

/-- An entry that is renamed to another place is moved there. -/
theorem rename_eq_ok (hne : t.placeOf path ≠ t.placeOf newPath)
    (h : t.rename path newPath = .ok after) :
    after = t.move (t.placeOf path) (t.placeOf newPath) ∧
      ∃ entry, t.Renames path newPath entry := by
  rw [rename] at h
  obtain ⟨⟨directory, last, slash⟩, ho, h⟩ := exists_of_bind_eq_ok h
  obtain ⟨⟨newDirectory, newLast, newSlash⟩, hn, h⟩ := exists_of_bind_eq_ok h
  cases last with
  | dots => cases h
  | name name =>
    cases newLast with
    | dots => cases h
    | name newName =>
      obtain ⟨hold, rfl⟩ := target_eq_name_iff.mp ho
      obtain ⟨hnew, rfl⟩ := target_eq_name_iff.mp hn
      simp only [← hold.placeOf_eq, ← hnew.placeOf_eq, if_neg hne] at h
      split at h
      · cases h
      · rename_i entry hentry
        split at h
        · cases h
        · rename_i hslash
          split at h
          · cases h
          · rename_i hbelow
            split at h
            · cases h
            · rename_i habove
              split at h
              · cases h
              · rename_i hfree
                obtain ⟨hunheld, hfree⟩ := Option.or_eq_none_iff.mp hfree
                refine ⟨(Except.ok.inj h).symm, entry, ⟨_, _, hold⟩, ⟨_, _, hnew⟩, hentry, hunheld,
                  fun hfile => by simpa [hfile] using hslash, ?_, ?_, hfree⟩
                · rw [hnew.placeOf_eq] at hne ⊢
                  exact not_prefix_concat hne hbelow
                · rw [hold.placeOf_eq] at hne ⊢
                  exact not_prefix_concat hne.symm habove

/-- The children of a directory are what stands at its place with one more name. -/
theorem hasChildren_iff {place : Place} :
    t.hasChildren place = true ↔ ∃ name, (t.entry? (place ++ [name])).isSome := by
  rw [hasChildren, List.any_eq_true]
  constructor
  · rintro ⟨e, he, hchild⟩
    rw [Bool.and_eq_true, decide_eq_true_eq, decide_eq_true_eq] at hchild
    obtain ⟨hne, rfl⟩ := hchild
    refine ⟨e.1.getLast hne, ?_⟩
    rw [List.dropLast_concat_getLast]
    exact isSome_at_of_mem he
  · rintro ⟨name, hsome⟩
    obtain ⟨e, he, hplace⟩ := exists_mem_of_isSome_at (by simp) hsome
    exact ⟨e, he, by simp [hplace]⟩

/-- A directory makes way for a directory only, and only when it is empty. -/
theorem replaces_directory {entry : Entry} {place : Place}
    (hd : t.entry? place = some .directory) (h : t.replaceFault? entry place = none) :
    entry = .directory ∧ t.hasChildren place = false := by
  rw [replaceFault?, hd] at h
  cases hheld : t.refusal? place with
  | some fault =>
    rw [hheld] at h
    cases h
  | none =>
    rw [hheld] at h
    cases entry with
    | directory => exact ⟨rfl, by simpa using h⟩
    | file content executable => cases h

/-- Where an entry can be put in the place of what stands there, nothing stands below. -/
theorem nothing_below_of_replaceFault? (hr : t.Rooted) {entry : Entry} {place : Place}
    (h : t.replaceFault? entry place = none) {below : Place} (hne : below ≠ []) :
    t.entry? (place ++ below) = none := by
  by_cases hd : t.entry? place = some .directory
  · obtain ⟨-, hchildren⟩ := replaces_directory hd h
    have hchild : ∀ name, t.entry? (place ++ [name]) = none := by
      intro name
      by_contra hsome
      have := hasChildren_iff.mpr ⟨name, Option.isSome_iff_ne_none.mpr hsome⟩
      rw [hchildren] at this
      cases this
    obtain ⟨name, rest, rfl⟩ := List.exists_cons_of_ne_nil hne
    rw [List.append_cons]
    cases rest with
    | nil => rw [List.append_nil, hchild]
    | cons next more =>
      exact hr.nothing_below (by rw [hchild]; exact nofun) (List.cons_ne_nil next more)
  · exact hr.nothing_below hd hne

/-- In a rooted tree a rename moves an entry, with all below it, and changes nothing else. -/
theorem moved_of_rename (hr : t.Rooted) (hne : t.placeOf path ≠ t.placeOf newPath)
    (h : t.rename path newPath = .ok after) :
    Moved (t.placeOf path) (t.placeOf newPath) t after ∧ ∃ entry, t.Renames path newPath entry := by
  obtain ⟨rfl, entry, hentry⟩ := rename_eq_ok hne h
  refine ⟨moved_move hentry.new_not_below hentry.old_not_below ?_, entry, hentry⟩
  rintro e he ⟨below, hbelow⟩
  by_contra hother
  have hnil : below ≠ [] := by
    rintro rfl
    exact hother (by rw [← hbelow, List.append_nil])
  have hnone := nothing_below_of_replaceFault? hr hentry.free hnil
  rw [hbelow] at hnone
  have hsome := isSome_at_of_mem he
  rw [hnone] at hsome
  cases hsome

/-- A file that is renamed is found by its new path. -/
theorem lookup_renamed_file (hr : t.Rooted) {content : Text.Bytes} {executable : Bool}
    (hn : t.Renames path newPath (.file content executable))
    (hm : Moved (t.placeOf path) (t.placeOf newPath) t after) :
    after.lookup newPath = .ok (.file content executable) := by
  obtain ⟨directory, name, hnew⟩ := hn.new
  have hfree : t.entry? (t.placeOf newPath) ≠ some .directory := by
    intro hd
    cases (replaces_directory hd hn.free).1
  -- directories stay: none is at or below a place where the file was or comes to be
  have hstay : ∀ place, t.entry? place = some .directory →
      after.entry? place = some .directory := by
    intro place hd
    rw [hm.elsewhere place (hr.not_prefix_of_directory hn.no_directory hd)
      (hr.not_prefix_of_directory hfree hd), hd]
  have hafter := hnew.of_directories_stay hm.start hstay
  rw [hafter.lookup_eq_ok_iff (hn.slash nofun).2, placeOf_congr hm.start]
  have harrived := hm.arrived []
  rwa [List.append_nil, List.append_nil, hn.moved] at harrived

/-- A file that is renamed leaves all places but two as they are. -/
theorem at_renamed_file (hr : t.Rooted) {content : Text.Bytes} {executable : Bool}
    (hn : t.Renames path newPath (.file content executable))
    (hm : Moved (t.placeOf path) (t.placeOf newPath) t after) {place : Place}
    (hold : place ≠ t.placeOf path) (hnew : place ≠ t.placeOf newPath) :
    after.entry? place = t.entry? place := by
  by_cases hbelow : t.placeOf path <+: place
  · obtain ⟨below, rfl⟩ := hbelow
    rw [hm.gone below, hr.nothing_below hn.no_directory]
    rintro rfl
    exact hold (List.append_nil _)
  by_cases habove : t.placeOf newPath <+: place
  · obtain ⟨below, rfl⟩ := habove
    have hne : below ≠ [] := by
      rintro rfl
      exact hnew (List.append_nil _)
    rw [hm.arrived below, hr.nothing_below hn.no_directory hne,
      nothing_below_of_replaceFault? hr hn.free hne]
  · exact hm.elsewhere place hbelow habove

end Renaming

end DesignGraph.Files.FileTree
