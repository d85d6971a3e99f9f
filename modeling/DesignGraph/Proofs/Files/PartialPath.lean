import DesignGraph.Files.PathText
import DesignGraph.Proofs.Files.Operations
import DesignGraph.Proofs.Text.Pieces

/-!
# The path of an unfinished picture

The ending of the path goes to its last part. So the path always ends in a name, whatever
the path of the picture ends in, and leads to another place.
-/
namespace DesignGraph.Files.FileTree

open Text

def partialSuffix : List Char := ['.', 'p', 'a', 'r', 't', 'i', 'a', 'l']

theorem toList_partialPath (path : String) :
    (partialPath path).toList = path.toList ++ partialSuffix := by
  have hsuffix : ".partial".toList = partialSuffix := by decide +kernel
  rw [← hsuffix]
  exact String.toList_append

/-- The last part of the path is lengthened; after a slash there is a new part. -/
theorem parts_partialPath (path : String) :
    ∃ above last, parts (partialPath path) = above ++ [String.ofList (last ++ partialSuffix)] ∧
      parts path = above ++ if last = [] then [] else [String.ofList last] := by
  have hslash : '/' ∉ partialSuffix := by decide
  obtain ⟨before, last, hpath, hpartial⟩ := exists_pieces_append hslash path.toList
  refine ⟨(before.filter (· ≠ [])).map String.ofList, last, ?_, ?_⟩
  · have hlong : last ++ partialSuffix ≠ [] := List.append_ne_nil_of_right_ne_nil last (by decide)
    rw [parts, toList_partialPath, hpartial, List.filter_append, List.map_append,
      List.filter_singleton, decide_eq_true hlong]
    rfl
  · rw [parts, hpath, List.filter_append, List.map_append, List.filter_singleton]
    by_cases h : last = [] <;> simp [h]

/-- A part with the ending is a name: it is longer than the parts that are none. -/
theorem ofList_append_partialSuffix_ne (last : List Char) :
    String.ofList (last ++ partialSuffix) ≠ "." ∧ String.ofList (last ++ partialSuffix) ≠ ".." := by
  have hlength : (String.ofList (last ++ partialSuffix)).toList.length = last.length + 8 := by
    rw [String.toList_ofList, List.length_append]
    rfl
  refine ⟨fun h => ?_, fun h => ?_⟩
  · rw [h] at hlength
    have hdot : ".".toList.length = 1 := by decide
    omega
  · rw [h] at hlength
    have hup : "..".toList.length = 2 := by decide
    omega

/-- The path ends in a name. -/
theorem exists_parts_partialPath (path : String) :
    ∃ above name, parts (partialPath path) = above ++ [name] ∧ name ≠ "." ∧ name ≠ ".." := by
  obtain ⟨above, last, hpartial, -⟩ := parts_partialPath path
  exact ⟨above, _, hpartial, ofList_append_partialSuffix_ne last⟩

theorem endsWith_partialPath (path : String) : (partialPath path).endsWith '/' = false := by
  rw [String.endsWith_char_eq_getLast?, toList_partialPath,
    List.getLast?_append_of_ne_nil _ (by decide)]
  decide

/-- What is found at the path is named by it. -/
theorem exists_names_partialPath {t : FileTree} {path : String} {entry : Entry}
    (h : t.lookup (partialPath path) = .ok entry) :
    ∃ directory name, t.Names (partialPath path) directory name := by
  obtain ⟨above, name, hparts, hdot, hup⟩ := exists_parts_partialPath path
  exact ⟨_, name, names_of_lookup h hparts hdot hup⟩

/-- A file at the path is removed, unless the system refuses. -/
theorem removeFile_partialPath {t : FileTree} {path : String}
    (h : t.isFile (partialPath path) = true) :
    t.removeFile (partialPath path) = match t.refusal? (t.placeOf (partialPath path)) with
      | some fault => .error fault
      | none => .ok (t.erase (t.placeOf (partialPath path))) := by
  obtain ⟨above, name, hparts, hdot, hup⟩ := exists_parts_partialPath path
  exact removeFile_of_isFile h hparts hdot hup (endsWith_partialPath path)

theorem origin_partialPath (t : FileTree) (path : String) :
    t.origin (partialPath path) = t.origin path := by
  rw [origin, origin, String.startsWith_char_eq_head?, String.startsWith_char_eq_head?,
    toList_partialPath]
  cases path.toList with
  | nil => rfl
  | cons c rest => rfl

/-- One part leads no further down unless it is a name. -/
theorem follow_singleton (place : Place) (part : String) :
    (follow place [part]).length ≤ place.length ∨ follow place [part] = place ++ [part] := by
  by_cases hdot : part = "."
  · have hstay : follow place [part] = place := by rw [follow, if_pos hdot, follow]
    exact .inl (Nat.le_of_eq (congrArg List.length hstay))
  by_cases hup : part = ".."
  · have hrise : follow place [part] = place.dropLast := by
      rw [follow, if_neg hdot, if_pos hup, follow]
    rw [hrise, List.length_dropLast]
    omega
  · right
    exact follow_name hdot hup place

/-- With the ending the last part leads to another place: its name is longer than the part
without it. -/
theorem follow_last_ne (place : Place) (last : List Char) :
    follow place (if last = [] then [] else [String.ofList last]) ≠
      place ++ [String.ofList (last ++ partialSuffix)] := by
  intro h
  have hlength := congrArg List.length h
  rw [List.length_append, List.length_singleton] at hlength
  by_cases hlast : last = []
  · rw [if_pos hlast, follow] at hlength
    omega
  · rw [if_neg hlast] at h hlength
    rcases follow_singleton place (String.ofList last) with hle | hname
    · omega
    · rw [hname, List.append_cancel_left_eq, List.cons.injEq, String.ofList_inj] at h
      have hsuffix := congrArg List.length h.1
      rw [List.length_append] at hsuffix
      have height : partialSuffix.length = 8 := rfl
      omega

theorem placeOf_partialPath_eq (t : FileTree) {path : String} {above : List String}
    {last : List Char}
    (h : parts (partialPath path) = above ++ [String.ofList (last ++ partialSuffix)]) :
    t.placeOf (partialPath path) =
      follow (t.origin path) above ++ [String.ofList (last ++ partialSuffix)] := by
  obtain ⟨hdot, hup⟩ := ofList_append_partialSuffix_ne last
  rw [placeOf, origin_partialPath, h, follow_append, follow_name hdot hup]

/-- The unfinished picture has a place of its own: both paths are followed to one place, and
from there its name is another than the last part of the other path. -/
theorem placeOf_partialPath_ne (t : FileTree) (path : String) :
    t.placeOf (partialPath path) ≠ t.placeOf path := by
  obtain ⟨above, last, hpartial, hpath⟩ := parts_partialPath path
  rw [t.placeOf_partialPath_eq hpartial, placeOf, hpath, follow_append]
  exact (follow_last_ne _ last).symm

/-- On the last part of a path and a dot after it one comes by the directory and by what the
part leads to. -/
theorem follow_of_prefix_last {place : Place} {last : List Char} {dots first : List String}
    (hdots : dots = [] ∨ dots = ["."])
    (h : first <+: (if last = [] then [] else [String.ofList last]) ++ dots) :
    follow place first = place ∨
      follow place first = follow place (if last = [] then [] else [String.ofList last]) := by
  have hfirst : first <+: (if last = [] then [] else [String.ofList last]) →
      follow place first = place ∨
        follow place first = follow place (if last = [] then [] else [String.ofList last]) := by
    by_cases hlast : last = []
    · rw [if_pos hlast, List.prefix_nil]
      rintro rfl
      exact .inl rfl
    · rw [if_neg hlast, ← List.nil_append [String.ofList last], List.prefix_concat_iff,
        List.prefix_nil]
      rintro (rfl | rfl)
      · exact .inr rfl
      · exact .inl rfl
  rcases hdots with rfl | rfl
  · exact hfirst (by rwa [List.append_nil] at h)
  · rcases List.prefix_concat_iff.mp h with rfl | h
    · right
      rw [follow_append, follow, if_pos rfl, follow]
    · exact hfirst h

/-- Where an unfinished picture can be made and no directory is in its place, its place is not
on the way to the picture. -/
theorem Names.follow_ne_partialPath {t : FileTree} {path name : String} {directory : Place}
    (hn : t.Names (partialPath path) directory name)
    (hfree : t.entry? (t.placeOf (partialPath path)) ≠ some .directory) {first : List String}
    (hfirst : first <+: walked path) :
    follow (t.origin path) first ≠ t.placeOf (partialPath path) := by
  obtain ⟨above, last, hpartial, hpath⟩ := parts_partialPath path
  obtain ⟨above', hparts, hwalk⟩ := hn.found
  obtain ⟨rfl, -⟩ := List.append_inj' (hparts.symm.trans hpartial) rfl
  rw [origin_partialPath] at hwalk
  have hdirectory := eq_follow_of_walk hwalk
  rw [walked, hpath, List.append_assoc] at hfirst
  rcases List.prefix_or_prefix_of_prefix hfirst (List.prefix_append above' _) with hup | hdown
  · -- up to the directory that holds both there are only directories
    obtain ⟨below, rfl⟩ := hup
    have hd : t.entry? (follow (t.origin path) first) = some .directory := by
      cases below with
      | nil => rw [← List.append_nil first, ← hdirectory, hn.holds]
      | cons part more => exact (walk_cons (walk_append_eq_ok.mp hwalk).2).1
    intro heq
    exact hfree (heq ▸ hd)
  · obtain ⟨rest, rfl⟩ := hdown
    rw [List.prefix_append_right_inj] at hfirst
    rw [t.placeOf_partialPath_eq hpartial, follow_append]
    have hdots : (if path.endsWith '/' then ["."] else []) = [] ∨
        (if path.endsWith '/' then ["."] else []) = ["."] := by
      by_cases hslash : path.endsWith '/' <;> simp [hslash]
    rcases follow_of_prefix_last hdots hfirst with hplace | hlast
    · rw [hplace]
      exact fun h => List.cons_ne_nil _ _ (List.self_eq_append_right.mp h)
    · rw [hlast]
      exact follow_last_ne _ last

/-- What is read at the path of the picture is told without what stands in the place of the
unfinished one. -/
theorem ChangesOnly.readBytes_partialPath {a b : FileTree} {path name : String} {directory : Place}
    (h : ChangesOnly (a.placeOf (partialPath path)) a b)
    (hn : a.Names (partialPath path) directory name)
    (hfree : a.entry? (a.placeOf (partialPath path)) ≠ some .directory) :
    b.readBytes path = a.readBytes path := by
  have hway : ∀ first, first <+: walked path →
      b.entry? (follow (a.origin path) first) = a.entry? (follow (a.origin path) first) :=
    fun first hfirst => h.entry? _ (hn.follow_ne_partialPath hfree hfirst)
  have hresolve : b.resolve path = a.resolve path := by
    rw [resolve, resolve, ← walked, origin_congr h.start, walk_congr hway]
  rw [readBytes, readBytes, FileTree.lookup, FileTree.lookup, hresolve]
  cases hfound : a.resolve path with
  | error fault => rfl
  | ok place =>
    obtain rfl : place = follow (a.origin path) (walked path) := by
      rw [resolve, ← walked] at hfound
      split at hfound
      · cases hfound
      · exact eq_follow_of_walk hfound
    simp only [bind, Except.bind]
    rw [hway _ List.prefix_rfl]

end DesignGraph.Files.FileTree
