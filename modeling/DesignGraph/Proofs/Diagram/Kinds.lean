import DesignGraph.Diagram.Kind

/-!
# Which texts name a kind

There are five words, each for a kind of its own. A text names a kind by one of them, with
blanks around it and in letters of either case.
-/
namespace DesignGraph.Diagram.Kind

open Text

/-- The kinds by their names. -/
def byName : List (String × Kind) :=
  [("architecture", .architecture), ("dependency", .dependency), ("er", .er),
    ("interaction", .interaction), ("domain", .domain)]

/-- Without the blanks around it, and in small letters, the text is the name of the kind. -/
def NamedBy (kind : Kind) (text : String) : Prop :=
  (String.ofList ((trim text.toList).map Char.toLower), kind) ∈ byName

instance (kind : Kind) (text : String) : Decidable (kind.NamedBy text) :=
  inferInstanceAs (Decidable (_ ∈ byName))

theorem mem_byName_iff {word : String} {kind : Kind} :
    (word, kind) ∈ byName ↔ word = kind.name := by
  cases kind <;> simp [byName, name]

/-- A kind is read back from its name. -/
theorem lookup_name (kind : Kind) : byName.lookup kind.name = some kind := by
  cases kind <;> decide

theorem name_injective {kind other : Kind} (h : kind.name = other.name) : kind = other :=
  Option.some.inj ((lookup_name kind).symm.trans (h ▸ lookup_name other))

theorem sameIgnoringCase_name_iff {kind : Kind} {text : String} :
    sameIgnoringCase kind.name.toList (trim text.toList) = true ↔ kind.NamedBy text := by
  have hsmall : kind.name.toList.map Char.toLower = kind.name.toList := by
    cases kind <;> decide
  rw [NamedBy, mem_byName_iff, sameIgnoringCase, hsmall, beq_iff_eq, eq_comm,
    ← String.toList_inj, String.toList_ofList]

theorem namedBy_of_ofName? {text : String} {kind : Kind} (h : ofName? text = some kind) :
    kind.NamedBy text := by
  rw [ofName?] at h
  have hsame := List.find?_some h
  exact sameIgnoringCase_name_iff.mp hsame

/-- The kind of a text is the one that it names. -/
theorem ofName?_eq_some_iff {text : String} {kind : Kind} :
    ofName? text = some kind ↔ kind.NamedBy text := by
  refine ⟨namedBy_of_ofName?, fun h => ?_⟩
  have hmem : kind ∈ all := by cases kind <;> decide
  obtain ⟨found, hfound⟩ : ∃ found, ofName? text = some found :=
    Option.isSome_iff_exists.mp
      (List.find?_isSome.mpr ⟨kind, hmem, sameIgnoringCase_name_iff.mpr h⟩)
  have hname : found.name = kind.name :=
    (mem_byName_iff.mp (namedBy_of_ofName? hfound)).symm.trans (mem_byName_iff.mp h)
  rw [hfound, name_injective hname]

/-- A text without a kind names none of the five. -/
theorem ofName?_eq_none_iff {text : String} :
    ofName? text = none ↔ ∀ kind : Kind, ¬ kind.NamedBy text := by
  rw [Option.eq_none_iff_forall_not_mem]
  exact forall_congr' fun kind => not_congr ofName?_eq_some_iff

example : Kind.er.NamedBy " Er\t" := by decide +kernel

end DesignGraph.Diagram.Kind
