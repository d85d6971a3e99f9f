import DesignGraph.Diagram.Image
import DesignGraph.Proofs.Files.PartialPath

/-!
# A picture is made as a whole or not at all

The layout program may fail to start, end as it likes, and write its picture or not. What
is asked of it is that it changes no other place. Then a run that fails has changed at
most the place of the unfinished picture, and leaves no file there that the system lets
be removed; a run that succeeds has moved what the program left there to the path of the
picture.
-/
namespace DesignGraph.Diagram

open Files Tool
open FileTree (ChangesOnly Moved Same)

/-- What a layout program may do to the files: nothing when it is asked for its version,
and nothing but at the path of the picture when it makes one. What it leaves is a tree
again. -/
structure LayoutProgram (programs : Programs) (program : String) : Prop where
  version : ∀ {files ending}, run programs program ["-V"] "" files = .ok ending →
    Same files ending.files
  picture : ∀ {source path files ending}, files.Rooted →
    run programs program ["-Tpng", "-o", path] source files = .ok ending →
      ChangesOnly (files.placeOf path) files ending.files
  rooted : ∀ {source path files ending}, files.Rooted →
    run programs program ["-Tpng", "-o", path] source files = .ok ending → ending.files.Rooted

/-! ## Laying out -/

section LayOut

variable {programs : Programs} {program source path : String} {files left : FileTree}

/-- Laying out succeeds only if the program was run and ended with the status zero. -/
theorem layOut_eq_ok (h : layOut programs program source path files = (.ok (), left)) :
    ∃ ending, run programs program ["-Tpng", "-o", path] source files = .ok ending ∧
      ending.status = .ok (.status 0) ∧ left = ending.files := by
  rw [layOut] at h
  split at h
  · cases h
  · cases h
  · rename_i ending hrun
    split at h
    · cases h
    · rename_i status hstatus
      split at h
      · rename_i hsuccess
        rw [ExitStatus.isSuccess_iff.mp hsuccess] at hstatus
        exact ⟨ending, hrun, hstatus, (congrArg Prod.snd h).symm⟩
      · cases h

/-- However laying out ends, the program was not started or its files are left. -/
theorem layOut_files :
    (layOut programs program source path files).2 = files ∨
      ∃ ending, run programs program ["-Tpng", "-o", path] source files = .ok ending ∧
        (layOut programs program source path files).2 = ending.files := by
  rw [layOut]
  split
  · exact .inl rfl
  · exact .inl rfl
  · rename_i ending hrun
    refine .inr ⟨ending, hrun, ?_⟩
    split
    · rfl
    · split <;> rfl

theorem LayoutProgram.layOut_changesOnly (hdot : LayoutProgram programs program)
    (hr : files.Rooted) (source path : String) :
    ChangesOnly (files.placeOf path) files (layOut programs program source path files).2 := by
  rcases layOut_files with hfiles | ⟨ending, hrun, hfiles⟩
  · rw [hfiles]
    exact .refl _ files
  · rw [hfiles]
    exact hdot.picture hr hrun

end LayOut

/-! ## Cleaning up -/

/-- What stands at the path is gone, or the system has refused to remove it. -/
theorem discard_cases (files : FileTree) (path : String) :
    files.placeOf path ≠ [] ∧ discard files path = files.erase (files.placeOf path) ∨
      ∃ fault, files.removeFile path = .error fault ∧ discard files path = files := by
  rw [discard]
  cases hremove : files.removeFile path with
  | ok rest => exact .inl (FileTree.removeFile_eq_ok hremove)
  | error fault => exact .inr ⟨fault, rfl, rfl⟩

theorem refusal?_discard (files : FileTree) (path : String) (place : Place) :
    (discard files path).refusal? place = files.refusal? place := by
  rcases discard_cases files path with ⟨-, herase⟩ | ⟨fault, -, hsame⟩
  · rw [herase]
    rfl
  · rw [hsame]

/-- Only what stands at the path is discarded. -/
theorem changesOnly_discard (files : FileTree) (path : String) :
    ChangesOnly (files.placeOf path) files (discard files path) := by
  rcases discard_cases files path with ⟨hplace, herase⟩ | ⟨fault, -, hsame⟩
  · rw [herase]
    refine ⟨rfl, fun other hother => ?_, fun _ _ => rfl⟩
    rw [FileTree.at_erase files hplace, if_neg hother]
  · rw [hsame]
    exact .refl _ files

/-- A file that is left in the place of the unfinished picture cannot be removed. Where the
path leads to it, nothing may be taken away from the place. -/
structure Irremovable (path : String) (files : FileTree) : Prop where
  refused : ∃ fault, files.removeFile path = .error fault
  held : files.isFile path = true → (files.refusal? (files.placeOf path)).isSome

/-- No unfinished picture is left but one that cannot be removed. -/
theorem irremovable_of_discard {files : FileTree} {target : String} {content : Text.Bytes}
    {executable : Bool}
    (h : FileTree.entry? (discard files (partialPath target))
      (files.placeOf (partialPath target)) = some (.file content executable)) :
    Irremovable (partialPath target) (discard files (partialPath target)) := by
  rcases discard_cases files (partialPath target) with ⟨hplace, herase⟩ | ⟨fault, hfault, hsame⟩
  · rw [herase, FileTree.at_erase files hplace, if_pos rfl] at h
    cases h
  · rw [hsame]
    refine ⟨⟨fault, hfault⟩, fun hfile => ?_⟩
    rw [FileTree.removeFile_partialPath hfile] at hfault
    cases hheld : files.refusal? (files.placeOf (partialPath target)) with
    | some refusal => rfl
    | none =>
      rw [hheld] at hfault
      cases hfault

/-! ## Moving into place -/

/-- An entry that stood at one path when a picture was finished now stands, with all below
it, at another. No other place has changed since before the picture was made; where the
entry is a file, that is true of all places but these two. -/
structure Placed (path target : String) (entry : Entry) (before finished after : FileTree) :
    Prop where
  start : after.start = before.start
  found : finished.lookup path = .ok entry
  holds : after.entry? (before.placeOf target) = some entry
  arrived : ∀ below, after.entry? (before.placeOf target ++ below) =
    finished.entry? (before.placeOf path ++ below)
  gone : ∀ below, after.entry? (before.placeOf path ++ below) = none
  elsewhere : ∀ place, ¬ before.placeOf path <+: place → ¬ before.placeOf target <+: place →
    after.entry? place = before.entry? place ∧ after.refusal? place = before.refusal? place
  file : entry ≠ .directory → after.lookup target = .ok entry ∧
    ∀ place, place ≠ before.placeOf path → place ≠ before.placeOf target →
      after.entry? place = before.entry? place

section Placing

variable {path target : String} {entry : Entry} {before finished after : FileTree}

/-- What has been moved away is found no more. -/
theorem Placed.lookup_path (h : Placed path target entry before finished after) (other : Entry) :
    after.lookup path ≠ .ok other := by
  intro hl
  have hentry := FileTree.at_of_lookup hl
  have hgone := h.gone []
  rw [List.append_nil] at hgone
  rw [FileTree.placeOf_congr h.start, hgone] at hentry
  cases hentry

/-- The files before the picture was made are told by what stands where. -/
theorem Placed.of_same {found : FileTree} (hs : Same before found)
    (h : Placed path target entry found finished after) :
    Placed path target entry before finished after := by
  have hpath := FileTree.placeOf_congr hs.start path
  have htarget := FileTree.placeOf_congr hs.start target
  refine ⟨h.start.trans hs.start, h.found, htarget ▸ h.holds, ?_, ?_, ?_,
    fun hentry => ⟨(h.file hentry).1, ?_⟩⟩
  · rw [← hpath, ← htarget]
    exact h.arrived
  · rw [← hpath]
    exact h.gone
  · intro place hnp hnt
    rw [← hs.entry? place, ← hs.refusal? place]
    exact h.elsewhere place (hpath ▸ hnp) (htarget ▸ hnt)
  · intro place hnp hnt
    rw [← hs.entry? place]
    exact (h.file hentry).2 place (hpath ▸ hnp) (htarget ▸ hnt)

/-- A finished picture that is renamed is in its place. -/
theorem placed_of_rename
    (hchange : ChangesOnly (before.placeOf (partialPath target)) before finished)
    (hr : finished.Rooted) (h : finished.rename (partialPath target) target = .ok after) :
    ∃ entry, Placed (partialPath target) target entry before finished after := by
  obtain ⟨hmoved, entry, hrenames⟩ :=
    FileTree.moved_of_rename hr (finished.placeOf_partialPath_ne target) h
  obtain ⟨directory, name, hnames⟩ := hrenames.old
  have hpath := FileTree.placeOf_congr hchange.start (partialPath target)
  have htarget := FileTree.placeOf_congr hchange.start target
  rw [hpath, htarget] at hmoved
  refine ⟨entry, hmoved.start.trans hchange.start, ?_, ?_, hmoved.arrived, hmoved.gone, ?_, ?_⟩
  · exact (hnames.lookup_eq_ok_iff (FileTree.endsWith_partialPath target)).mpr hrenames.moved
  · have harrived := hmoved.arrived []
    rwa [List.append_nil, List.append_nil, ← hpath, hrenames.moved] at harrived
  · intro place hnp hnt
    have hne : place ≠ before.placeOf (partialPath target) := by
      rintro rfl
      exact hnp List.prefix_rfl
    rw [hmoved.elsewhere place hnp hnt, hmoved.refusal? place hnp hnt]
    exact ⟨hchange.entry? place hne, hchange.refusal? place hne⟩
  · intro hentry
    obtain ⟨content, executable, rfl⟩ : ∃ content executable, entry = .file content executable := by
      cases entry with
      | directory => exact absurd rfl hentry
      | file content executable => exact ⟨content, executable, rfl⟩
    rw [← hpath, ← htarget] at hmoved
    refine ⟨FileTree.lookup_renamed_file hr hrenames hmoved, fun place hnp hnt => ?_⟩
    rw [← hchange.entry? place hnp]
    exact FileTree.at_renamed_file hr hrenames hmoved (hpath ▸ hnp) (htarget ▸ hnt)

end Placing

/-! ## Making a picture -/

section MakePicture

variable {programs : Programs} {program source target : String} {files after : FileTree}

/-- A picture that was made is what the layout program left, in its place. -/
theorem makePicture_eq_ok (hdot : LayoutProgram programs program) (hr : files.Rooted)
    (h : makePicture programs program source target files = (.ok (), after)) :
    ∃ ending, run programs program ["-Tpng", "-o", partialPath target] source files = .ok ending ∧
      ending.status = .ok (.status 0) ∧
      ∃ entry, Placed (partialPath target) target entry files ending.files after := by
  rw [makePicture] at h
  split at h
  · cases h
  · rename_i left hlayout
    obtain ⟨ending, hrun, hsuccess, rfl⟩ := layOut_eq_ok hlayout
    refine ⟨ending, hrun, hsuccess, ?_⟩
    rw [moveIntoPlace] at h
    cases hrename : ending.files.rename (partialPath target) target with
    | error fault =>
      rw [hrename] at h
      cases h
    | ok moved =>
      rw [hrename] at h
      cases h
      exact placed_of_rename (hdot.picture hr hrun) (hdot.rooted hr hrun) hrename

/-- A picture that was not made leaves nothing else changed, and no file of its own but one that
cannot be removed. -/
theorem makePicture_eq_error (hdot : LayoutProgram programs program) (hr : files.Rooted)
    {failure : Failure}
    (h : makePicture programs program source target files = (.error failure, after)) :
    ChangesOnly (files.placeOf (partialPath target)) files after ∧
      ∀ content executable,
        after.entry? (files.placeOf (partialPath target)) = some (.file content executable) →
          Irremovable (partialPath target) after := by
  -- whatever has failed, what the program left has been cleaned up
  suffices hafter : after =
      discard (layOut programs program source (partialPath target) files).2 (partialPath target) by
    have hlayout := hdot.layOut_changesOnly hr source (partialPath target)
    rw [hafter, ← FileTree.placeOf_congr hlayout.start] at *
    exact ⟨hlayout.trans (changesOnly_discard _ _), fun _ _ => irremovable_of_discard⟩
  rw [makePicture] at h
  cases hlayout : layOut programs program source (partialPath target) files with
  | mk result left =>
    rw [hlayout] at h
    cases result with
    | error fault =>
      cases h
      rfl
    | ok done =>
      simp only [moveIntoPlace] at h
      cases hrename : left.rename (partialPath target) target with
      | ok moved =>
        rw [hrename] at h
        cases h
      | error fault =>
        rw [hrename] at h
        cases h
        rfl

end MakePicture

end DesignGraph.Diagram
