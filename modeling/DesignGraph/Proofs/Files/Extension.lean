import DesignGraph.Files.PathText
import DesignGraph.Proofs.Text.Pieces
import Mathlib.Data.List.TakeWhile

/-!
# Extensions, and the path of a picture

The extension of a path is told here from its text alone: the last part, behind which only
slashes and single dots may stand, is a stem, a dot and the extension. The path of a picture
is the path that was asked for if that has the right extension; otherwise the extension is put
after the text, and there it is the extension of the path unless the text is empty or ends in
a slash.
-/
namespace DesignGraph.Files

open Text

/-! ## The last part of a path -/

/-- What may follow the last part of a path: slashes, each with nothing or a single dot before
the next one. -/
def IsClosing (text : List Char) : Prop :=
  ∃ idle : List (List Char), (∀ part ∈ idle, part = [] ∨ part = ['.']) ∧
    text = idle.flatMap ('/' :: ·)

/-- The last part of the path is this one. -/
def EndsIn (path part : List Char) : Prop :=
  ∃ above closing, path = above ++ (part ++ closing) ∧ (above = [] ∨ above.getLast? = some '/') ∧
    IsClosing closing ∧ '/' ∉ part ∧ part ≠ [] ∧ part ≠ ['.']

theorem not_mem_of_idle {idle : List (List Char)} (h : ∀ part ∈ idle, part = [] ∨ part = ['.']) :
    ∀ part ∈ idle, '/' ∉ part := by
  intro part hm
  rcases h part hm with rfl | rfl <;> decide

theorem getLast?_flatMap_slash (before : List (List Char)) :
    before.flatMap (· ++ ['/']) = [] ∨ (before.flatMap (· ++ ['/'])).getLast? = some '/' := by
  rcases List.eq_nil_or_concat before with rfl | ⟨front, last, rfl⟩
  · exact .inl rfl
  · right
    rw [List.concat_eq_append, List.flatMap_append, List.flatMap_singleton, ← List.append_assoc,
      List.getLast?_concat]

/-- The pieces of a path that ends in a part: that part, and after it those that do not
count. -/
theorem exists_pieces_of_endsIn {path part : List Char} (h : EndsIn path part) :
    ∃ before idle, pieces '/' path = before ++ part :: idle ∧
      ∀ other ∈ idle, other = [] ∨ other = ['.'] := by
  obtain ⟨above, closing, rfl, habove, ⟨idle, hidle, rfl⟩, hslash, -, -⟩ := h
  have hrest := pieces_append_flatMap hslash (not_mem_of_idle hidle)
  rcases habove with rfl | habove
  · exact ⟨[], idle, hrest, hidle⟩
  · obtain ⟨front, rfl⟩ := List.getLast?_eq_some_iff.mp habove
    refine ⟨pieces '/' front, idle, ?_, hidle⟩
    rw [List.append_assoc, List.singleton_append, pieces_append_separator, hrest]

/-- The part that counts last is the one in which the text ends. -/
theorem getLast?_pathParts_iff {path part : List Char} :
    (pathParts path).getLast? = some part ↔ EndsIn path part := by
  rw [pathParts, List.getLast?_filter, List.find?_eq_some_iff_append, decide_eq_true_eq]
  constructor
  · rintro ⟨⟨hne, hdot⟩, idle, before, hreverse, hidle⟩
    have hpieces : pieces '/' path = before.reverse ++ part :: idle.reverse := by
      rw [← (pieces '/' path).reverse_reverse, hreverse]
      simp
    have hpath := intercalate_pieces '/' path
    rw [hpieces, intercalate_append_cons] at hpath
    refine ⟨_, _, hpath.symm, getLast?_flatMap_slash _, ⟨idle.reverse, ?_, rfl⟩, ?_, hne, hdot⟩
    · intro other hother
      have hcounts := hidle other (List.mem_reverse.mp hother)
      simpa [or_iff_not_imp_left] using hcounts
    · have hpart : part ∈ pieces '/' path := by
        rw [hpieces]
        exact List.mem_append_right _ List.mem_cons_self
      exact not_mem_of_mem_pieces hpart
  · intro h
    obtain ⟨before, idle, hpieces, hidle⟩ := exists_pieces_of_endsIn h
    obtain ⟨-, -, -, -, -, -, hne, hdot⟩ := h
    refine ⟨⟨hne, hdot⟩, idle.reverse, before.reverse, by rw [hpieces]; simp, ?_⟩
    intro other hother
    rcases hidle other (List.mem_reverse.mp hother) with rfl | rfl <;> decide

/-! ## Extensions -/

/-- The last part of the path is a stem that is not empty, a dot and this ending, which has no
dot in it; two dots are no name. -/
def HasExtension (path ending : List Char) : Prop :=
  ∃ stem, EndsIn path (stem ++ '.' :: ending) ∧ stem ≠ [] ∧ '.' ∉ ending ∧
    stem ++ '.' :: ending ≠ ['.', '.']

/-- Up to its last dot a name is the stem, if that dot is not the first character. -/
theorem exists_stem_iff {name ending : List Char} :
    (∃ stem, stem ≠ [] ∧ name = stem ++ '.' :: ending ∧ '.' ∉ ending) ↔
      name.reverse.takeWhile (· ≠ '.') = ending.reverse ∧
        ∃ c d rest, name.reverse.dropWhile (· ≠ '.') = c :: d :: rest := by
  constructor
  · rintro ⟨stem, hstem, rfl, hdot⟩
    have hending : ∀ c ∈ ending.reverse, decide (c ≠ '.') = true := by
      intro c hc
      rw [List.mem_reverse] at hc
      exact decide_eq_true fun he => hdot (he ▸ hc)
    obtain ⟨d, rest, hrest⟩ := List.exists_cons_of_ne_nil (List.reverse_ne_nil_iff.mpr hstem)
    have hname : (stem ++ '.' :: ending).reverse = ending.reverse ++ '.' :: d :: rest := by
      rw [List.reverse_append, List.reverse_cons, List.append_assoc, List.singleton_append, hrest]
    rw [hname, List.takeWhile_append_of_pos hending, List.dropWhile_append_of_pos hending]
    simp
  · rintro ⟨htake, c, d, rest, hdrop⟩
    have hc : c = '.' := by
      have hhead := List.head?_dropWhile_not (· ≠ '.') name.reverse
      rw [hdrop] at hhead
      simpa using hhead
    subst hc
    refine ⟨(d :: rest).reverse, by simp, ?_, fun hm => ?_⟩
    · have hname := List.takeWhile_append_dropWhile (p := (· ≠ '.')) (l := name.reverse)
      rw [htake, hdrop] at hname
      rw [← name.reverse_reverse, ← hname]
      simp
    · rw [← List.mem_reverse, ← htake] at hm
      simpa using List.mem_takeWhile_imp hm

theorem fileName?_eq_some_iff {path name : String} :
    fileName? path = some name ↔ EndsIn path.toList name.toList ∧ name.toList ≠ ['.', '.'] := by
  unfold fileName?
  constructor
  · intro h
    split at h
    · rename_i part hpart
      obtain ⟨hdots, h⟩ := Option.ite_none_left_eq_some.mp h
      obtain rfl := Option.some.inj h
      rw [String.toList_ofList]
      exact ⟨getLast?_pathParts_iff.mp hpart, hdots⟩
    · cases h
  · rintro ⟨hends, hdots⟩
    rw [getLast?_pathParts_iff.mpr hends]
    show (if name.toList = ['.', '.'] then none else _) = some name
    rw [if_neg hdots, String.ofList_toList]

theorem drop_length_takeWhile (p : Char → Bool) (text : List Char) :
    text.drop (text.takeWhile p).length = text.dropWhile p := by
  have h := List.takeWhile_append_dropWhile (p := p) (l := text)
  exact (congrArg (List.drop _) h.symm).trans List.drop_left

/-- The extension of a path is what its text says. -/
theorem extension?_eq_some_iff {path ending : String} :
    extension? path = some ending ↔ HasExtension path.toList ending.toList := by
  unfold extension?
  constructor
  · intro h
    split at h
    · rename_i name hname
      obtain ⟨hends, hdots⟩ := fileName?_eq_some_iff.mp hname
      dsimp only at h
      rw [drop_length_takeWhile] at h
      split at h
      · rename_i c d rest hdrop
        obtain rfl := Option.some.inj h
        have htake : name.toList.reverse.takeWhile (· ≠ '.') =
            (String.ofList (name.toList.reverse.takeWhile (· ≠ '.')).reverse).toList.reverse := by
          rw [String.toList_ofList, List.reverse_reverse]
        obtain ⟨stem, hstem, hsplit, hdot⟩ := exists_stem_iff.mpr ⟨htake, c, d, rest, hdrop⟩
        rw [hsplit] at hends hdots
        exact ⟨stem, hends, hstem, hdot, hdots⟩
      · cases h
    · cases h
  · rintro ⟨stem, hends, hstem, hdot, hdots⟩
    have hname : fileName? path = some (String.ofList (stem ++ '.' :: ending.toList)) := by
      rw [fileName?_eq_some_iff, String.toList_ofList]
      exact ⟨hends, hdots⟩
    obtain ⟨htake, c, d, rest, hdrop⟩ := exists_stem_iff.mp ⟨stem, hstem, rfl, hdot⟩
    rw [hname]
    dsimp only
    rw [String.toList_ofList, drop_length_takeWhile, hdrop, htake]
    show some (String.ofList ending.toList.reverse.reverse) = some ending
    rw [List.reverse_reverse, String.ofList_toList]

/-! ## The path of a picture -/

/-- The extension of the path is that of a picture, letter case aside. -/
def HasPngExtension (path : String) : Prop :=
  ∃ ending, HasExtension path.toList ending ∧ ending.map Char.toLower = ['p', 'n', 'g']

theorem hasPngExtension_iff {path : String} : HasPngExtension path ↔
    (extension? path).any (fun ending => sameIgnoringCase ending.toList "png".toList) = true := by
  have hlower : "png".toList.map Char.toLower = ['p', 'n', 'g'] := by decide
  rw [Option.any_eq_true]
  constructor
  · rintro ⟨ending, hending, hpng⟩
    refine ⟨String.ofList ending, ?_, ?_⟩
    · rw [extension?_eq_some_iff, String.toList_ofList]
      exact hending
    · rw [String.toList_ofList, sameIgnoringCase, hlower, hpng]
      rfl
  · rintro ⟨ending, hending, hpng⟩
    rw [sameIgnoringCase, hlower, beq_iff_eq] at hpng
    exact ⟨ending.toList, extension?_eq_some_iff.mp hending, hpng⟩

instance (path : String) : Decidable (HasPngExtension path) :=
  decidable_of_iff _ hasPngExtension_iff.symm

theorem pngPath_eq (path : String) :
    pngPath path = if HasPngExtension path then path else path ++ ".png" := by
  unfold pngPath
  simp only [hasPngExtension_iff]
  cases extension? path <;> rfl

/-- Put after a name, the ending is the extension of the path. -/
theorem hasPngExtension_append {path : String} (hne : path ≠ "")
    (hslash : path.toList.getLast? ≠ some '/') : HasPngExtension (path ++ ".png") := by
  have htext : (path ++ ".png").toList = path.toList ++ ['.', 'p', 'n', 'g'] := by
    rw [String.toList_append]
    rfl
  have hlast : ∃ above name, path.toList = above ++ name ∧
      (above = [] ∨ above.getLast? = some '/') ∧ '/' ∉ name ∧ name ≠ [] := by
    by_cases hm : '/' ∈ path.toList
    · obtain ⟨front, name, hpath, hname⟩ := exists_last_separator hm
      refine ⟨front ++ ['/'], name, by rw [hpath]; simp, .inr List.getLast?_concat, hname, ?_⟩
      rintro rfl
      rw [hpath] at hslash
      exact hslash List.getLast?_concat
    · exact ⟨[], path.toList, rfl, .inl rfl, hm, by simpa using hne⟩
  obtain ⟨above, name, hpath, habove, hname, hname_ne⟩ := hlast
  have hlong {other : List Char} (h : other.length < 4) : name ++ ['.', 'p', 'n', 'g'] ≠ other := by
    rintro rfl
    simp only [List.length_append, List.length_cons, List.length_nil] at h
    omega
  refine ⟨['p', 'n', 'g'], ⟨name, ?_, hname_ne, by decide, hlong (by decide)⟩, by decide⟩
  rw [htext, hpath]
  exact ⟨above, [], by simp, habove, ⟨[], by simp, rfl⟩, by simp [hname], hlong (by decide),
    hlong (by decide)⟩

/-- The path of a picture is the path asked for if the extension of that is the right one, and
otherwise that path with the ending put after it. With the right extension, or with a text
that is not empty and does not end in a slash, what comes of it has the extension and stays
as it is. -/
theorem pngPath_has_extension_after_name (path : String) :
    (HasPngExtension path → pngPath path = path) ∧
    (¬ HasPngExtension path → pngPath path = path ++ ".png") ∧
    (HasPngExtension path ∨ path ≠ "" ∧ path.toList.getLast? ≠ some '/' →
      HasPngExtension (pngPath path) ∧ pngPath (pngPath path) = pngPath path) := by
  have hkept {path : String} (h : HasPngExtension path) : pngPath path = path := by
    rw [pngPath_eq, if_pos h]
  have hput (h : ¬ HasPngExtension path) : pngPath path = path ++ ".png" := by
    rw [pngPath_eq, if_neg h]
  refine ⟨hkept, hput, fun h => ?_⟩
  have hpng : HasPngExtension (pngPath path) := by
    by_cases hpath : HasPngExtension path
    · rwa [hkept hpath]
    · obtain ⟨hne, hslash⟩ := h.resolve_left hpath
      rw [hput hpath]
      exact hasPngExtension_append hne hslash
  exact ⟨hpng, hkept hpng⟩

theorem pngPath_has_extension_after_name_shots :
    HasPngExtension "shots/Arch.PNG/." ∧ pngPath "shots/Arch.PNG/." = "shots/Arch.PNG/." ∧
    ¬ HasPngExtension "shots/arch.svg" ∧
    ("shots/arch.svg" ≠ "" ∧ "shots/arch.svg".toList.getLast? ≠ some '/') ∧
    pngPath "shots/arch.svg" = "shots/arch.svg.png" ∧
    HasPngExtension (pngPath "shots/arch.svg") ∧
    pngPath (pngPath "shots/arch.svg") = pngPath "shots/arch.svg" := by
  have hpng : HasPngExtension "shots/Arch.PNG/." := by decide +kernel
  have hsvg : ¬ HasPngExtension "shots/arch.svg" := by decide +kernel
  have hname : "shots/arch.svg" ≠ "" ∧ "shots/arch.svg".toList.getLast? ≠ some '/' := by decide
  obtain ⟨hkept, -, -⟩ := pngPath_has_extension_after_name "shots/Arch.PNG/."
  obtain ⟨-, hput, hstays⟩ := pngPath_has_extension_after_name "shots/arch.svg"
  exact ⟨hpng, hkept hpng, hsvg, hname, (hput hsvg).trans (by decide), hstays (.inr hname)⟩

/-- A name that begins with its only dot has no extension, so the ending is put after it even
if it is that ending. A slash behind an extension does not count, so nothing is put there.
Behind a slash the ending is a name without an extension, and is put there again. -/
theorem pngPath_differs_from_ending :
    pngPath ".png" = ".png.png" ∧ pngPath "shots.png/" = "shots.png/" ∧
    extension? (pngPath "out/") = none ∧ pngPath (pngPath "out/") ≠ pngPath "out/" := by
  decide +kernel

end DesignGraph.Files
