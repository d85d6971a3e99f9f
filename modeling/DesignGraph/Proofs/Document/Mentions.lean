import DesignGraph.Proofs.Document.Parentheticals
import Mathlib.Data.List.Induction

/-!
# Names as they are mentioned

A document mentions a name with decoration around it and perhaps an annotation in parentheses
at the end. A sub-heading is rid of the annotation from its first parenthesis on, the pieces of
a dependency item are rid of theirs by depth; both come to the same name. What an annotation
holds, commas and further parentheses included, does no harm as long as each parenthesis in it
is closed.
-/
namespace DesignGraph.Document

open Text

/-- Every parenthesis that opens is closed, and none closes that was not opened. -/
inductive Balanced : List Char → Prop
  | nil : Balanced []
  | plain {c : Char} {rest : List Char} (hopen : c ≠ '(') (hclose : c ≠ ')')
      (hrest : Balanced rest) : Balanced (c :: rest)
  | group {inner rest : List Char} (hinner : Balanced inner) (hrest : Balanced rest) :
      Balanced ('(' :: (inner ++ ')' :: rest))

/-- A name the way it is written: decoration may stand before and after it, and an annotation
at the end. -/
structure Mention where
  before : List Char
  name : String
  after : List Char
  annotation : Option (List Char)
  decorated : ∀ c ∈ before ++ after, isDecoration c = true
  /-- The name has no comma and no parenthesis in it. -/
  uncut : IsUncut name.toList
  starts : ∀ c, name.toList.head? = some c → isBlank c = false ∧ isDecoration c = false
  ends : ∀ c, name.toList.getLast? = some c → isBlank c = false ∧ isDecoration c = false
  named : saysNone name.toList = false
  balanced : ∀ inner ∈ annotation, Balanced inner

namespace Mention

/-- The name and its decoration. -/
def core (m : Mention) : List Char := m.before ++ (m.name.toList ++ m.after)

def text (m : Mention) : String :=
  String.ofList (m.core ++ m.annotation.elim [] fun inner => '(' :: (inner ++ [')']))

theorem name_ne_nil (m : Mention) : m.name.toList ≠ [] := by
  intro hnil
  have hnamed := m.named
  rw [hnil] at hnamed
  revert hnamed
  decide

theorem isUncut_core (m : Mention) : IsUncut m.core := by
  have hdecoration : ∀ c, isDecoration c = true → c ≠ ',' ∧ c ≠ '(' ∧ c ≠ ')' := by
    intro c hc
    refine ⟨?_, ?_, ?_⟩ <;> rintro rfl <;> revert hc <;> decide
  intro c hc
  rcases List.mem_append.mp hc with hc | hc
  · exact hdecoration c (m.decorated c (List.mem_append_left _ hc))
  · rcases List.mem_append.mp hc with hc | hc
    · exact m.uncut c hc
    · exact hdecoration c (m.decorated c (List.mem_append_right _ hc))

/-- Without blanks and then without decoration, the name is left. -/
theorem trimDecoration_trim_core (m : Mention) :
    trimDecoration (trim m.core) = m.name.toList := by
  have htrim : trim m.core = m.before.dropWhile isBlank ++
      (m.name.toList ++ dropEndWhile isBlank m.after) :=
    trimWhile_append m.name_ne_nil (fun c hc => (m.starts c hc).1) (fun c hc => (m.ends c hc).1) _ _
  rw [htrim]
  refine trimWhile_append_of_forall m.name_ne_nil (fun c hc => (m.starts c hc).2)
    (fun c hc => (m.ends c hc).2) (fun c hc => m.decorated c ?_) fun c hc => m.decorated c ?_
  · exact List.mem_append_left _ ((List.dropWhile_sublist _).subset hc)
  · exact List.mem_append_right _ (dropEndWhile_subset isBlank _ hc)

/-! ## As a sub-heading -/

theorem dropClosingParenthetical_trim_text (m : Mention) :
    dropClosingParenthetical (trim m.text.toList) = trim m.core := by
  rw [text, String.toList_ofList]
  cases m.annotation with
  | none =>
    have hlast : (trim m.core).getLast? ≠ some ')' := by
      intro hclose
      exact (m.isUncut_core ')' (trim_subset _ (List.mem_of_getLast? hclose))).2.2 rfl
    rw [Option.elim_none, List.append_nil, dropClosingParenthetical, if_neg hlast]
  | some inner =>
    have hne : '(' :: (inner ++ [')']) ≠ [] := List.cons_ne_nil _ _
    have hends : (∀ c, ('(' :: (inner ++ [')'])).head? = some c → isBlank c = false) ∧
        ∀ c, ('(' :: (inner ++ [')'])).getLast? = some c → isBlank c = false := by
      constructor
      · rintro c ⟨⟩
        rfl
      · intro c hc
        rw [← List.cons_append, List.getLast?_concat] at hc
        cases hc
        rfl
    have htrim : trim (m.core ++ '(' :: (inner ++ [')'])) =
        trimStart m.core ++ '(' :: (inner ++ [')']) := by
      have happend := trimWhile_append hne hends.1 hends.2 m.core []
      rwa [List.append_nil, dropEndWhile_nil, List.append_nil] at happend
    have hlast : (trimStart m.core ++ '(' :: (inner ++ [')'])).getLast? = some ')' := by
      rw [← List.cons_append, ← List.append_assoc, List.getLast?_concat]
    have huncut : ∀ c ∈ trimStart m.core, (decide (c ≠ '(')) = true := by
      intro c hc
      exact decide_eq_true (m.isUncut_core c (trimStart_subset _ hc)).2.1
    rw [Option.elim_some, htrim, dropClosingParenthetical, if_pos hlast,
      List.takeWhile_append_of_pos huncut, List.takeWhile_cons_of_neg (by simp), List.append_nil]
    rfl

theorem componentName_text (m : Mention) : componentName m.text.toList = m.name.toList := by
  rw [componentName, dropClosingParenthetical_trim_text, trimDecoration_trim_core]

end Mention

/-! ## As a piece of a list -/

/-- What stands in parentheses is dropped up to the one that closes them. -/
theorem Balanced.dropParentheticals_append {inner : List Char} (h : Balanced inner) (depth : Nat)
    (rest : List Char) :
    dropParentheticals (depth + 1) (inner ++ rest) = dropParentheticals (depth + 1) rest := by
  induction h generalizing depth rest with
  | nil => rfl
  | plain hopen hclose hrest ih =>
    rw [List.cons_append, dropParentheticals, if_neg hopen]
    simp only [hclose, ↓reduceIte, ih]
  | @group inner more hinner hrest ihinner ihrest =>
    have hclose : dropParentheticals (depth + 1 + 1) (')' :: (more ++ rest)) =
        dropParentheticals (depth + 1) (more ++ rest) := rfl
    rw [List.cons_append, List.append_assoc, List.cons_append, dropParentheticals, if_pos rfl,
      ihinner, hclose, ihrest]

theorem dropParentheticals_append_of_isUncut {front : List Char} (h : IsUncut front)
    (rest : List Char) :
    dropParentheticals 0 (front ++ rest) = front ++ dropParentheticals 0 rest := by
  induction front with
  | nil => rfl
  | cons c front ih =>
    rw [List.cons_append, dropParentheticals, if_neg (h c List.mem_cons_self).2.1,
      ih fun d hd => h d (List.mem_cons_of_mem c hd), List.cons_append]

theorem Mention.dropParentheticals_text_append (m : Mention) (rest : List Char) :
    dropParentheticals 0 (m.text.toList ++ rest) = m.core ++ dropParentheticals 0 rest := by
  rw [text, String.toList_ofList, List.append_assoc,
    dropParentheticals_append_of_isUncut m.isUncut_core]
  cases hnote : m.annotation with
  | none => rfl
  | some inner =>
    have hopen : dropParentheticals 0 ('(' :: (inner ++ ')' :: rest)) =
        dropParentheticals 1 (inner ++ ')' :: rest) := rfl
    have hclose : dropParentheticals 1 (')' :: rest) = dropParentheticals 0 rest := rfl
    rw [Option.elim_some, List.cons_append, List.append_assoc, List.singleton_append, hopen,
      (m.balanced inner hnote).dropParentheticals_append, hclose]

/-- Without its parentheticals a list of mentions is one of names with their decoration. -/
theorem dropParentheticals_listed (mentions : List Mention) :
    dropParentheticals 0 (listed (mentions.map Mention.text)) =
      listed (mentions.map fun m => String.ofList m.core) := by
  induction mentions with
  | nil => rfl
  | cons first rest ih =>
    cases rest with
    | nil =>
      have hfirst := first.dropParentheticals_text_append []
      simpa [listed, dropParentheticals] using hfirst
    | cons second more =>
      have hcomma : ∀ text, dropParentheticals 0 (',' :: ' ' :: text) =
          ',' :: ' ' :: dropParentheticals 0 text := fun _ => rfl
      simp only [List.map_cons] at ih
      simp only [List.map_cons, listed_cons_cons, first.dropParentheticals_text_append, hcomma,
        ih, String.toList_ofList]

/-- Cut at every comma, a list of names without commas gives the names, all but the first
after a space. -/
theorem pieces_listed (first : String) (rest : List String)
    (h : ∀ name ∈ first :: rest, ',' ∉ name.toList) :
    pieces ',' (listed (first :: rest)) = first.toList :: rest.map fun name => ' ' :: name.toList := by
  induction rest generalizing first with
  | nil =>
    have hone : listed [first] = first.toList := by simp [listed]
    rw [hone, pieces_of_not_mem (h first List.mem_cons_self), List.map_nil]
  | cons second more ih =>
    have hrest := ih second fun name hm => h name (List.mem_cons_of_mem first hm)
    rw [listed_cons_cons, pieces_append_separator, pieces_of_not_mem (h first List.mem_cons_self),
      pieces_cons_of_ne (by decide) hrest, List.map_cons, List.singleton_append]

/-! ## Blanks around a list -/

theorem dropParentheticals_append (depth : Nat) (front rest : List Char) :
    dropParentheticals depth (front ++ rest) =
      dropParentheticals depth front ++ dropParentheticals (front.foldl depthAfter depth) rest := by
  induction front generalizing depth with
  | nil => rfl
  | cons c front ih =>
    rw [List.cons_append, dropParentheticals_cons, dropParentheticals_cons, ih,
      List.append_assoc, List.foldl_cons]

/-- What the pieces of a value come to without parentheticals and blanks around them. -/
def trimmedPieces (value : List Char) : List (List Char) :=
  (pieces ',' (dropParentheticals 0 value)).map trim

section Blank

variable {c : Char} (hc : isBlank c = true)
include hc

theorem trimmedPieces_cons_blank (value : List Char) :
    trimmedPieces (c :: value) = trimmedPieces value := by
  have hopen : c ≠ '(' := by
    rintro rfl
    revert hc
    decide
  have hcomma : c ≠ ',' := by
    rintro rfl
    revert hc
    decide
  rw [trimmedPieces, trimmedPieces, dropParentheticals, if_neg hopen]
  cases hp : pieces ',' (dropParentheticals 0 value) with
  | nil => exact absurd hp (pieces_ne_nil _ _)
  | cons piece more =>
    simp only [pieces_cons_of_ne hcomma hp, List.map_cons, trim_cons_blank piece hc]

theorem trimmedPieces_append_blank (value : List Char) :
    trimmedPieces (value ++ [c]) = trimmedPieces value := by
  have hcomma : ',' ∉ [c] := by
    rw [List.mem_singleton]
    rintro rfl
    revert hc
    decide
  have hlast : dropParentheticals (value.foldl depthAfter 0) [c] = [] ∨
      dropParentheticals (value.foldl depthAfter 0) [c] = [c] := by
    rw [dropParentheticals_cons]
    split
    · exact .inr rfl
    · exact .inl rfl
  rw [trimmedPieces, trimmedPieces, dropParentheticals_append]
  rcases hlast with hlast | hlast
  · rw [hlast, List.append_nil]
  · obtain ⟨before, last, hpieces, hlonger⟩ :=
      exists_pieces_append hcomma (dropParentheticals 0 value)
    rw [hlast, hlonger, hpieces, List.map_append, List.map_append, List.map_singleton,
      List.map_singleton, trim_append_blank last hc]

end Blank

/-- Blanks around a list do not change what its pieces come to. -/
theorem trimmedPieces_trim (value : List Char) : trimmedPieces (trim value) = trimmedPieces value := by
  have hstart : ∀ text, trimmedPieces (trimStart text) = trimmedPieces text := by
    intro text
    induction text with
    | nil => rfl
    | cons c rest ih =>
      cases hc : isBlank c with
      | false => rw [trimStart_cons_of_neg rest hc]
      | true =>
        rw [trimStart, List.dropWhile_cons_of_pos hc, trimmedPieces_cons_blank hc]
        exact ih
  have hend : ∀ text, trimmedPieces (trimEnd text) = trimmedPieces text := by
    intro text
    induction text using List.reverseRecOn with
    | nil => rfl
    | append_singleton rest c ih =>
      cases hc : isBlank c with
      | false => rw [trimEnd, dropEndWhile_append_of_neg rest hc]
      | true =>
        rw [trimEnd, dropEndWhile_append_of_pos rest hc, trimmedPieces_append_blank hc]
        exact ih
  exact (hend (trimStart value)).trans (hstart value)

/-! ## The words for no dependency -/

theorem saysNone_congr {a b : List Char} (h : trim a = trim b) : saysNone a = saysNone b := by
  rw [saysNone, saysNone, h]

/-- A mention is none of the words: either it has a character that these have not, or it is a
name with spaces around it. -/
theorem Mention.saysNone_text (m : Mention) : saysNone m.text.toList = false := by
  have hmarks : ∀ c ∈ ['(', '\x60', '*', '_'], lowercase c = [c] ∧ isBlank c = false ∧
      ∀ word ∈ noneWords, c ∉ word.toList := by
    intro c hc
    simp only [List.mem_cons, List.not_mem_nil, or_false] at hc
    rcases hc with rfl | rfl | rfl | rfl <;> decide
  by_cases hmark : ∃ c ∈ ['(', '\x60', '*', '_'], c ∈ m.text.toList
  · obtain ⟨c, hc, hmem⟩ := hmark
    obtain ⟨hlower, hblank, hwords⟩ := hmarks c hc
    exact saysNone_of_mem hlower hwords (mem_trimWhile_of_neg hmem hblank)
  · have htext : m.text.toList = m.core := by
      have hopen : '(' ∉ m.text.toList := fun hm => hmark ⟨'(', List.mem_cons_self, hm⟩
      rw [text, String.toList_ofList] at hopen ⊢
      cases hnote : m.annotation with
      | none => rw [Option.elim_none, List.append_nil]
      | some inner => simp [hnote] at hopen
    have hspace : ∀ c ∈ m.before ++ m.after, isBlank c = true := by
      intro c hc
      have hmem : c ∈ m.text.toList := by
        rw [htext, core]
        rcases List.mem_append.mp hc with hc | hc
        · exact List.mem_append_left _ hc
        · exact List.mem_append_right _ (List.mem_append_right _ hc)
      have hdecoration := m.decorated c hc
      simp only [isDecoration_iff_mem, List.mem_cons, List.not_mem_nil, or_false] at hdecoration
      rcases hdecoration with rfl | rfl | rfl | rfl
      · exact absurd ⟨_, by decide, hmem⟩ hmark
      · exact absurd ⟨_, by decide, hmem⟩ hmark
      · exact absurd ⟨_, by decide, hmem⟩ hmark
      · rfl
    have hstart : ∀ c, m.name.toList.head? = some c → isBlank c = false :=
      fun c hc => (m.starts c hc).1
    have hend : ∀ c, m.name.toList.getLast? = some c → isBlank c = false :=
      fun c hc => (m.ends c hc).1
    have htrim : trim m.text.toList = trim m.name.toList := by
      rw [htext, show trim m.name.toList = m.name.toList from trimWhile_eq_self hstart hend]
      exact trimWhile_append_of_forall m.name_ne_nil hstart hend
        (fun c hc => hspace c (List.mem_append_left _ hc))
        fun c hc => hspace c (List.mem_append_right _ hc)
    rw [saysNone_congr htrim, m.named]

theorem saysNone_listed_mentions {mentions : List Mention} (hne : mentions ≠ []) :
    saysNone (listed (mentions.map Mention.text)) = false := by
  match mentions, hne with
  | [m], _ =>
    have hone : listed [m.text] = m.text.toList := by simp [listed]
    rw [List.map_singleton, hone]
    exact m.saysNone_text
  | first :: second :: rest, _ =>
    refine saysNone_of_comma_mem (mem_trimWhile_of_neg ?_ (by decide))
    rw [List.map_cons, List.map_cons, listed_cons_cons]
    exact List.mem_append_right _ List.mem_cons_self

/-- A list of mentions names what is mentioned, in order and as often. -/
theorem dependencyTargets_mentions (mentions : List Mention) :
    dependencyTargets (dependencyLine (mentions.map Mention.text)) = mentions.map Mention.name := by
  cases mentions with
  | nil => rfl
  | cons first rest =>
    have hnone : saysNone (trim (listed ((first :: rest).map Mention.text))) = false :=
      (saysNone_congr (trimWhile_trimWhile isBlank _)).trans
        (saysNone_listed_mentions (List.cons_ne_nil first rest))
    have hcomma : ∀ name ∈ (first :: rest).map fun m => String.ofList m.core,
        ',' ∉ name.toList := by
      intro name hm
      obtain ⟨m, -, rfl⟩ := List.mem_map.mp hm
      rw [String.toList_ofList]
      exact fun hc => (m.isUncut_core ',' hc).1 rfl
    have htrimmed : trimmedPieces (trim (listed ((first :: rest).map Mention.text))) =
        (first :: rest).map fun m => trim m.core := by
      rw [trimmedPieces_trim, trimmedPieces, dropParentheticals_listed, List.map_cons,
        pieces_listed _ _ hcomma]
      simp only [List.map_cons, List.map_map, Function.comp_def, String.toList_ofList,
        trim_cons_blank _ (rfl : isBlank ' ' = true)]
    have hnames : ((pieces ',' (dropParentheticals 0
        (trim (listed ((first :: rest).map Mention.text))))).map fun piece =>
          trimDecoration (trim piece)) = (first :: rest).map fun m => m.name.toList := by
      have hsplit := congrArg (List.map trimDecoration) htrimmed
      simpa only [trimmedPieces, List.map_map, Function.comp_def,
        Mention.trimDecoration_trim_core] using hsplit
    have hkept : ((first :: rest).map fun m => m.name.toList).filter (fun name => !saysNone name) =
        (first :: rest).map fun m => m.name.toList := by
      rw [List.filter_eq_self]
      intro name hm
      obtain ⟨m, -, rfl⟩ := List.mem_map.mp hm
      rw [m.named]
      rfl
    rw [dependencyTargets_eq_pieces (dependencyValue?_dependencyLine _) hnone, hnames, hkept,
      List.map_map]
    simp

/-- A name mentioned as a sub-heading and one mentioned in a dependency item are read alike.
Each mention names its name as a sub-heading, and the item that lists the mentions names
theirs, in order and as often as they are mentioned. -/
theorem mentions_name_alike (mentions : List Mention) :
    (∀ m ∈ mentions, componentName m.text.toList = m.name.toList) ∧
    dependencyTargets (dependencyLine (mentions.map Mention.text)) = mentions.map Mention.name :=
  ⟨fun m _ => m.componentName_text, dependencyTargets_mentions mentions⟩

/-- A name in bold, with an annotation that has a comma and further parentheses in it. -/
def ledgerMention : Mention where
  before := [' ', '*', '*']
  name := "Ledger"
  after := ['*', '*', ' ']
  annotation := some ['e', 'u', ',', '(', '_', ')']
  decorated := List.all_eq_true.mp (by decide)
  uncut := isUncut_of_isIdentifier (by decide)
  starts := by
    rintro c ⟨⟩
    decide
  ends := by
    rintro c ⟨⟩
    decide
  named := by decide
  balanced := by
    rintro inner ⟨⟩
    have hregion : Balanced ['(', '_', ')'] :=
      .group (.plain (by decide) (by decide) .nil) .nil
    exact .plain (by decide) (by decide) (.plain (by decide) (by decide)
      (.plain (by decide) (by decide) hregion))

theorem mentions_name_alike_ledger :
    ledgerMention.text = " **Ledger** (eu,(_))" ∧
    componentName " **Ledger** (eu,(_))".toList = "Ledger".toList ∧
    dependencyTargets "- **dependency**:  **Ledger** (eu,(_)),  **Ledger** (eu,(_))".toList =
      ["Ledger", "Ledger"] := by
  have htext : ledgerMention.text = " **Ledger** (eu,(_))" := by decide +kernel
  have hline : dependencyLine ([ledgerMention, ledgerMention].map Mention.text) =
      "- **dependency**:  **Ledger** (eu,(_)),  **Ledger** (eu,(_))".toList := by decide +kernel
  obtain ⟨hheading, hitem⟩ := mentions_name_alike [ledgerMention, ledgerMention]
  refine ⟨htext, ?_, hline ▸ hitem⟩
  exact htext ▸ hheading ledgerMention List.mem_cons_self

end DesignGraph.Document
