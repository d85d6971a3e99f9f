import DesignGraph.Address.Url
import DesignGraph.Proofs.Text.Pieces

/-!
# Plain paths

Letters, digits, hyphens and underscores stay in a path as they are. What stands before a slash
in a path is worked out on its own, so a plain text behind the slash is added to it unchanged.
-/
namespace DesignGraph.Address

open Text

/-- Letters of the alphabet, digits, hyphens and underscores. -/
def isPlain (c : Char) : Bool :=
  ('a' ≤ c && c ≤ 'z') || ('A' ≤ c && c ≤ 'Z') || ('0' ≤ c && c ≤ '9') || c == '-' || c == '_'

/-- Plain characters, and slashes between them. -/
def IsPlainPath (text : List Char) : Prop := ∀ c ∈ text, isPlain c = true ∨ c = '/'

theorem toNat_lt_of_isPlain {c : Char} (h : isPlain c = true) : c.toNat < 128 := by
  have hlast : ∀ last : Char, c ≤ last → c.toNat ≤ last.toNat := fun _ hle => hle
  simp only [isPlain, Bool.or_eq_true, Bool.and_eq_true, decide_eq_true_eq, beq_iff_eq] at h
  rcases h with (((h | h) | h) | rfl) | rfl
  · exact Nat.lt_of_le_of_lt (hlast 'z' h.2) (by decide)
  · exact Nat.lt_of_le_of_lt (hlast 'Z' h.2) (by decide)
  · exact Nat.lt_of_le_of_lt (hlast '9' h.2) (by decide)
  · decide
  · decide

/-- What holds of the plain characters among the first codes holds of all of them. -/
theorem forall_isPlain {p : Char → Prop}
    (h : ∀ n < 128, isPlain (Char.ofNat n) = true → p (Char.ofNat n)) :
    ∀ c, isPlain c = true → p c := by
  intro c hc
  have hcode := h c.toNat (toNat_lt_of_isPlain hc)
  rw [Char.ofNat_toNat] at hcode
  exact hcode hc

/-- A plain character is not refused, is none of the signs of an address, and does not begin a
spelling of dots. -/
theorem refusals_of_isPlain : ∀ c, isPlain c = true →
    refusedInPath c = false ∧ Url.endsPath c = false ∧ c ≠ '\\' ∧ c.toLower ≠ '.' ∧
      c.toLower ≠ '%' :=
  forall_isPlain (by decide +kernel)

/-- A plain part is no spelling of dots. -/
theorem not_dots_of_isPlain {part : List Char} (h : ∀ c ∈ part, isPlain c = true) :
    isDot part = false ∧ isTwoDots part = false := by
  cases part with
  | nil => decide
  | cons c rest =>
    obtain ⟨-, -, -, hdot, hpercent⟩ := refusals_of_isPlain c (h c List.mem_cons_self)
    have hne : c ≠ '.' := by
      rintro rfl
      exact hdot (by decide)
    constructor
    · simp [isDot, hne, hpercent]
    · simp [isTwoDots, hdot.symm, hpercent.symm]

/-! ## What stands before a slash -/

/-- What parts leave does not depend on those that follow, if some do. -/
theorem exists_workOutDots (kind : SchemeKind) (parts found : List (List Char)) :
    ∃ left, ∀ rest, rest ≠ [] →
      workOutDots kind found (parts ++ rest) = workOutDots kind left rest := by
  induction parts generalizing found with
  | nil => exact ⟨found, fun _ _ => rfl⟩
  | cons part more ih =>
    have hmore : ∀ rest : List (List Char), rest ≠ [] → (more ++ rest).isEmpty = false := by
      intro rest hrest
      exact List.isEmpty_eq_false_iff.mpr (List.append_ne_nil_of_right_ne_nil more hrest)
    by_cases htwo : isTwoDots part
    · obtain ⟨left, hleft⟩ := ih (takeLastAway found)
      refine ⟨left, fun rest hrest => ?_⟩
      rw [← hleft rest hrest, List.cons_append, workOutDots, if_pos htwo, hmore rest hrest]
      rfl
    by_cases hdot : isDot part
    · obtain ⟨left, hleft⟩ := ih found
      refine ⟨left, fun rest hrest => ?_⟩
      rw [← hleft rest hrest, List.cons_append, workOutDots, if_neg htwo, if_pos hdot,
        hmore rest hrest]
      rfl
    · obtain ⟨left, hleft⟩ := ih (addPart kind found part)
      refine ⟨left, fun rest hrest => ?_⟩
      rw [← hleft rest hrest, List.cons_append, workOutDots, if_neg htwo, if_neg hdot]

/-- Parts of a path on a server are added one by one. -/
theorem foldl_addPart {kind : SchemeKind} (h : kind ≠ .files) (parts found : List (List Char)) :
    parts.foldl (addPart kind) found = found ++ parts := by
  induction parts generalizing found with
  | nil => exact (List.append_nil found).symm
  | cons part rest ih =>
    have hadd : addPart kind found part = found ++ [part] := by simp [addPart, h]
    rw [List.foldl_cons, ih, hadd, List.append_assoc, List.singleton_append]

/-- The parts of a plain text are added as they are. -/
theorem workOutDots_plain {kind : SchemeKind} (h : kind ≠ .files) {text : List Char}
    (hplain : IsPlainPath text) (found : List (List Char)) :
    workOutDots kind found ((pieces '/' text).map (percentEncode refusedInPath)) =
      found ++ pieces '/' text := by
  have hparts : ∀ part ∈ pieces '/' text, ∀ c ∈ part, isPlain c = true := by
    intro part hpart c hc
    refine (hplain c ((infix_of_mem_pieces hpart).subset hc)).resolve_right ?_
    rintro rfl
    exact not_mem_of_mem_pieces hpart hc
  have hkept : (pieces '/' text).map (percentEncode refusedInPath) = pieces '/' text := by
    refine (List.map_congr_left fun part hpart => ?_).trans (List.map_id _)
    exact percentEncode_of_none_refused fun c hc =>
      (refusals_of_isPlain c (hparts part hpart c hc)).1
  have hwork := @workOutDots_append_of_plain kind _
    (fun part hpart => not_dots_of_isPlain (hparts part hpart)) found []
  rw [List.append_nil, foldl_addPart h, workOutDots] at hwork
  rw [hkept, hwork]

/-- A plain text has no other slashes than those that it shows. -/
theorem map_isSlash_of_isPlainPath (kind : SchemeKind) {text : List Char}
    (h : IsPlainPath text) : (text.map fun c => if kind.isSlash c then '/' else c) = text := by
  refine (List.map_congr_left fun c hc => ?_).trans (List.map_id _)
  rcases h c hc with hc | rfl
  · have hne := (refusals_of_isPlain c hc).2.2.1
    have hslash : kind.isSlash c = (c == '/') := by simp [SchemeKind.isSlash, hne]
    rw [hslash]
    split
    · rename_i heq
      exact (eq_of_beq heq).symm
    · rfl
  · simp

/-- The parts of a plain text come behind those that stand before its slash. A slash at the
beginning belongs to the first part, so there need not be a part before the text. -/
theorem exists_pathParts (kind : SchemeKind) (before : List Char) :
    ∃ parts, ∀ text, IsPlainPath text → pathParts kind (before ++ '/' :: text) =
      workOutDots kind [] ((parts ++ pieces '/' text).map (percentEncode refusedInPath)) := by
  obtain ⟨written, hwritten⟩ :
      ∃ written, (before.map fun c => if kind.isSlash c then '/' else c) = written := ⟨_, rfl⟩
  have hmap : ∀ text, IsPlainPath text →
      ((before ++ '/' :: text).map fun c => if kind.isSlash c then '/' else c) =
        written ++ '/' :: text := by
    intro text hplain
    rw [List.map_append, List.map_cons, hwritten, map_isSlash_of_isPlainPath kind hplain]
    simp
  cases written with
  | nil =>
    refine ⟨[], fun text hplain => ?_⟩
    simp only [pathParts, hmap text hplain]
    rfl
  | cons c rest =>
    by_cases hc : c = '/'
    · refine ⟨pieces '/' rest, fun text hplain => ?_⟩
      subst hc
      simp only [pathParts, hmap text hplain, ← pieces_append_separator]
      rfl
    · refine ⟨pieces '/' (c :: rest), fun text hplain => ?_⟩
      simp only [pathParts, hmap text hplain, ← pieces_append_separator]
      simp [hc]

/-- A plain text behind a slash is added to the path as it is. -/
theorem exists_normalPath (service : Nat) (before : List Char) :
    ∃ front, ∀ text, IsPlainPath text →
      normalPath (.servers service) (before ++ '/' :: text) = front ++ '/' :: text := by
  obtain ⟨parts, hparts⟩ := exists_pathParts (.servers service) before
  obtain ⟨left, hleft⟩ := exists_workOutDots (.servers service)
    (parts.map (percentEncode refusedInPath)) []
  refine ⟨pathOfParts left, fun text hplain => ?_⟩
  have hne : (pieces '/' text).map (percentEncode refusedInPath) ≠ [] := by
    simpa using pieces_ne_nil '/' text
  have hspecial : (SchemeKind.servers service).isSpecial = true := rfl
  rw [normalPath, hspecial, Bool.not_true, Bool.and_false, if_neg Bool.false_ne_true,
    hparts text hplain, List.map_append, hleft _ hne, workOutDots_plain (by simp) hplain,
    pathOfParts, List.flatMap_append, flatMap_pieces, pathOfParts]

end DesignGraph.Address
