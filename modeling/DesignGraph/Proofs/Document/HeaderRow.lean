import DesignGraph.Proofs.Document.History
import DesignGraph.Proofs.Document.Printed

/-!
# Header rows

A row with the titles of a relation table opens one, and is no data: it gives its entity
neither a field nor a relation. That holds of the first such row of every run of rows. Inside
the table that it opens there is no header any more, so one that comes again is read for what
a row of the table holds, in which a title in English is a name like any other. The Korean
titles are still left out, by name.
-/
namespace DesignGraph.Document

open Text

/-! ## Titles -/

theorem isWord_toLower (c : Char) : isWord c.toLower = isWord c := by
  have hascii : ∀ n < 128, isWord (Char.ofNat n).toLower = isWord (Char.ofNat n) := by
    decide +kernel
  by_cases hupper : 65 ≤ c.toNat ∧ c.toNat ≤ 90
  · have hc := hascii c.toNat (by omega)
    rwa [Char.ofNat_toNat] at hc
  · have hc : c.toLower = c := dif_neg hupper
    rw [hc]

theorem isIdentifier_of_sameIgnoringCase {a b : List Char} (h : sameIgnoringCase a b = true)
    (ha : IsIdentifier a) : IsIdentifier b := by
  have hmap : a.map Char.toLower = b.map Char.toLower := by simpa [sameIgnoringCase] using h
  refine ⟨?_, fun c hc => ?_⟩
  · rintro rfl
    exact ha.1 (List.map_eq_nil_iff.mp hmap)
  · have hlower : c.toLower ∈ a.map Char.toLower := hmap ▸ List.mem_map_of_mem hc
    obtain ⟨d, hd, hdc⟩ := List.mem_map.mp hlower
    rw [← isWord_toLower, ← hdc, isWord_toLower]
    exact ha.2 d hd

/-- A cell with the title of a column holds an identifier. -/
theorem isIdentifier_of_isColumnTitle {titles : List String}
    (htitles : ∀ title ∈ titles, IsIdentifier title.toList) {cell : List Char}
    (h : isColumnTitle titles cell = true) : IsIdentifier (trim cell) := by
  obtain ⟨title, hmem, hsame⟩ := List.any_eq_true.mp h
  exact isIdentifier_of_sameIgnoringCase hsame (htitles title hmem)

/-- The first two cells of a header row hold identifiers. -/
theorem exists_titles {row : List Char} (h : isRelationHeader row = true) :
    ∃ first second others, tableCells row = first :: second :: others ∧
      IsIdentifier (trim first) ∧ IsIdentifier (trim second) := by
  have hrelation : ∀ title ∈ relationColumnTitles, IsIdentifier title.toList := by decide +kernel
  have htarget : ∀ title ∈ targetColumnTitles, IsIdentifier title.toList := by decide +kernel
  rw [isRelationHeader] at h
  split at h
  · rename_i first second others hcells
    obtain ⟨hfirst, hsecond⟩ := Bool.and_eq_true_iff.mp h
    exact ⟨first, second, others, hcells, isIdentifier_of_isColumnTitle hrelation hfirst,
      isIdentifier_of_isColumnTitle htarget hsecond⟩
  · cases h

/-! ## Steps at a header row -/

namespace State

section HeaderRow

variable {row : List Char} (h : isRelationHeader row = true)
include h

/-- Unless an entity has a relation table open, a header row gives nothing. -/
theorem facts_tableRow_of_no_open_table {s : State}
    (hs : s.entity = none ∨ s.inRelationTable = false) : (s.tableRow row).facts = [] := by
  obtain ⟨topic, component, entity, inTable⟩ := s
  cases entity with
  | none => rfl
  | some entity =>
    obtain rfl : inTable = false := hs.resolve_left (Option.some_ne_none entity)
    simp only [tableRow, Bool.false_eq_true, ↓reduceIte, h]

/-- In an open table a header row leaves the state as it is, relates the entity to its second
title, unless that is the Korean one, and gives at most its first title as a field, which the
Korean one is not. -/
theorem tableRow_of_open_table {s : State} {entity : String} (hentity : s.entity = some entity)
    (hopen : s.inRelationTable = true) :
    (s.tableRow row).state = s ∧
    ∃ first second others, tableCells row = first :: second :: others ∧
      (∀ r, .tableRelation r ∈ (s.tableRow row).facts ↔
        r = ⟨entity, String.ofList (trim second)⟩ ∧ String.ofList (trim second) ≠ "대상") ∧
      ∀ owner name, .field owner name ∈ (s.tableRow row).facts →
        owner = entity ∧ name = String.ofList (trim first) ∧ name ≠ "관계" := by
  obtain ⟨first, second, others, hcells, hfirst, hsecond⟩ := exists_titles h
  have htarget := tableTarget?_of_trim hcells hfirst hsecond
  have hstate : (s.tableRow row).state = s := by
    obtain ⟨topic, component, current, inTable⟩ := s
    rw [state_tableRow, show inTable = true from hopen, Bool.true_or]
  refine ⟨hstate, first, second, others, hcells, fun r => ?_, fun owner name hm => ?_⟩
  · have hfacts : (s.tableRow row).facts = targetFacts entity row ++ fieldFacts entity row := by
      simp only [tableRow, hentity, hopen, ↓reduceIte]
    have hnone : .tableRelation r ∉ fieldFacts entity row := by simp [fieldFacts]
    rw [hfacts, List.mem_append, or_iff_left hnone, targetFacts, htarget, Option.mem_toList,
      Option.map_eq_some_iff]
    constructor
    · rintro ⟨target, hfound, hr⟩
      obtain ⟨hname, htitle⟩ := Option.filter_eq_some_iff.mp hfound
      cases hr
      obtain rfl := Option.some.inj hname
      exact ⟨rfl, bne_iff_ne.mp htitle⟩
    · rintro ⟨rfl, htitle⟩
      exact ⟨_, Option.filter_eq_some_iff.mpr ⟨rfl, bne_iff_ne.mpr htitle⟩, rfl⟩
  · obtain ⟨current, hcurrent, ⟨given, hgiven, hfact⟩ | ⟨-, target, -, hfact⟩⟩ :=
      mem_facts_tableRow hm
    · cases hfact
      rw [fieldName?, hcells] at hgiven
      simp only [bareIdentifier?_of_trim hfirst, Option.map_some] at hgiven
      obtain ⟨hname, htoken⟩ := Option.filter_eq_some_iff.mp hgiven
      refine ⟨Option.some.inj (hcurrent.symm.trans hentity), (Option.some.inj hname).symm, ?_⟩
      rintro rfl
      revert htoken
      decide
    · cases hfact

end HeaderRow

end State

/-- A header row is no data unless an entity has a relation table open, and so the first one of
a run of rows never is, in any text and either mode. In an open table it leaves the state as it
is; it relates the entity to its second title, if that is in English, and at most its first
title is a field, if that is in English. -/
theorem header_row_gives_no_data_unless_repeated {row : List Char}
    (h : isRelationHeader row = true) (mode : Mode) :
    (∀ s : State, s.entity = none ∨ s.inRelationTable = false →
      (s.step mode (.tableRow row)).facts = []) ∧
    (∀ (s : State) entity, s.entity = some entity → s.inRelationTable = true →
      (s.step mode (.tableRow row)).state = s ∧
      ∃ first second others, tableCells row = first :: second :: others ∧
        (∀ r, .tableRelation r ∈ (s.step mode (.tableRow row)).facts ↔
          r = ⟨entity, String.ofList (trim second)⟩ ∧ String.ofList (trim second) ≠ "대상") ∧
        ∀ owner name, .field owner name ∈ (s.step mode (.tableRow row)).facts →
          owner = entity ∧ name = String.ofList (trim first) ∧ name ≠ "관계") ∧
    ∀ text before rest, (lines text).map Line.classify = before ++ .tableRow row :: rest →
      currentEntity? mode before = none ∨
        (∀ earlier ∈ closingRows before, isRelationHeader earlier = false) →
      ∃ step, (scan mode text)[before.length]? = some step ∧ step.facts = [] := by
  refine ⟨fun s hs => State.facts_tableRow_of_no_open_table h hs,
    fun s entity hentity hopen => State.tableRow_of_open_table h hentity hopen,
    fun text before rest hlines hfirst => ?_⟩
  refine ⟨(State.ofHistory mode before).step mode (.tableRow row), ?_,
    State.facts_tableRow_of_no_open_table h ?_⟩
  · rw [scan, hlines, State.getElem?_steps_at, State.after_initial]
  · refine hfirst.imp id fun hrows => ?_
    have hany : (closingRows before).any isRelationHeader = false := by simpa using hrows
    rw [State.ofHistory, hany, Bool.and_false]

/-- Two relation tables of one entity. In the first the header comes twice. -/
def twoTablesPart : List Char :=
  "## Entities\n### Order\n| relation | target |\n| relation | target |\n\n| 관계 | TARGETS |\n".toList

/-- The lines of the two tables up to the header of the second. -/
def twoTablesBefore : List Line :=
  [.sectionHeading "Entities".toList, .subHeading "Order".toList,
    .tableRow "| relation | target |".toList, .tableRow "| relation | target |".toList, .plain []]

theorem header_row_gives_no_data_second_table :
    isRelationHeader "| 관계 | TARGETS |".toList = true ∧
    (lines twoTablesPart).map Line.classify =
      twoTablesBefore ++ [.tableRow "| 관계 | TARGETS |".toList] ∧
    closingRows twoTablesBefore = [] ∧
    ∃ step, (scan .strict twoTablesPart)[5]? = some step ∧ step.facts = [] := by
  have hheader : isRelationHeader "| 관계 | TARGETS |".toList = true := by decide +kernel
  have hlines : (lines twoTablesPart).map Line.classify =
      twoTablesBefore ++ [.tableRow "| 관계 | TARGETS |".toList] := by decide +kernel
  have hrows : closingRows twoTablesBefore = [] := by decide +kernel
  refine ⟨hheader, hlines, hrows, ?_⟩
  obtain ⟨-, -, htext⟩ := header_row_gives_no_data_unless_repeated hheader .strict
  exact htext twoTablesPart twoTablesBefore [] hlines (.inr (hrows ▸ nofun))

/-- The header that comes again gives its entity a relation and a field. -/
theorem repeated_header_row_gives_data :
    ((lines twoTablesPart).map Line.classify)[3]? =
      some (.tableRow "| relation | target |".toList) ∧
    isRelationHeader "| relation | target |".toList = true ∧
    ((scan .strict twoTablesPart)[3]?.map Step.facts) =
      some [.tableRelation ⟨"Order", "target"⟩, .field "Order" "relation"] := by
  decide +kernel

end DesignGraph.Document
