import DesignGraph.Dot.Statement
import DesignGraph.Proofs.Dot.Escaping

/-!
# The source of a drawing, read back

Whatever names, attribute values and entities a drawing is made of, none of them breaks out
of its place: the source is read as the parts of its statements, one after the other, and
each quoted part says exactly the text that was put there.
-/
namespace DesignGraph.Dot

open Text

/-- What a token of a drawing says. -/
inductive Part where
  | word (text : String)
  | sign (c : Char)
  | arrow
  /-- An identifier, the name of a cluster or the value of an attribute. -/
  | name (text : String)
  /-- A record label, which has an escaping of its own. -/
  | label (text : List Char)
  deriving DecidableEq, Repr

inductive Token.Says : Token → Part → Prop
  | word (text : String) : Says (.word text.toList) (.word text)
  | sign (c : Char) : Says (.sign c) (.sign c)
  | arrow : Says .arrow .arrow
  | name {body : List Char} {text : String} (h : unquote? body = some text.toList) :
    Says (.quoted body) (.name text)
  | label (body : List Char) : Says (.quoted body) (.label body)

def wordParts (text : String) : List Part := if text.toList.isEmpty then [] else [.word text]

/-! ## The parts of statements -/

def attributeParts (a : Attribute) : List Part := wordParts a.1 ++ [.sign '=', .name a.2]

/-- A list of attributes in brackets, with commas between them. -/
def bracketParts (attributes : List Attribute) : List Part :=
  .sign '[' :: ([.sign ','].intercalate (attributes.map attributeParts) ++ [.sign ']'])

namespace Statement

/-- What a statement says, part by part. -/
def parts : Statement → List Part
  | .graphAttributes attributes => .word "graph" :: (bracketParts attributes ++ [.sign ';'])
  | .nodeDefaults attributes => .word "node" :: (bracketParts attributes ++ [.sign ';'])
  | .edgeDefaults attributes => .word "edge" :: (bracketParts attributes ++ [.sign ';'])
  | .node id [] => [.name id, .sign ';']
  | .node id attributes => .name id :: (bracketParts attributes ++ [.sign ';'])
  | .recordNode id label =>
    [.name id, .sign '[', .word "label", .sign '=', .label label, .sign ']', .sign ';']
  | .edge source target => [.name source, .arrow, .name target, .sign ';']
  | .openCluster name attributes =>
    [.word "subgraph", .name ("cluster_" ++ name), .sign '\x7b', .word "graph"] ++
      (bracketParts attributes ++ [.sign ';'])
  | .closeCluster => [.sign '\x7d']

def attributes : Statement → List Attribute
  | .graphAttributes attributes => attributes
  | .nodeDefaults attributes => attributes
  | .edgeDefaults attributes => attributes
  | .node _ attributes => attributes
  | .recordNode _ _ => []
  | .edge _ _ => []
  | .openCluster _ attributes => attributes
  | .closeCluster => []

/-- The names of its attributes are made of word characters, and a record label is one made
for an entity. -/
structure WellFormed (s : Statement) : Prop where
  attributeNames : ∀ a ∈ s.attributes, ∀ c ∈ a.1.toList, isWord c = true
  recordLabels : ∀ id label, s = .recordNode id label →
    ∃ entity fields, label = recordLabel entity fields

end Statement

/-! ## Texts that are read as parts -/

/-- The text is read as these parts, whatever follows it. -/
def Reads (text : List Char) (parts : List Part) : Prop :=
  ∃ tokens, List.Forall₂ Token.Says tokens parts ∧
    ∀ rest, tokens? (text ++ rest) = (tokens? rest).map (tokens ++ ·)

namespace Reads

theorem nil : Reads [] [] := by
  refine ⟨[], .nil, fun rest => ?_⟩
  simp

theorem append {a b : List Char} {ps qs : List Part} (ha : Reads a ps) (hb : Reads b qs) :
    Reads (a ++ b) (ps ++ qs) := by
  obtain ⟨ts, hts, hta⟩ := ha
  obtain ⟨us, hus, hub⟩ := hb
  refine ⟨ts ++ us, List.rel_append hts hus, fun rest => ?_⟩
  rw [List.append_assoc, hta, hub, Option.map_map]
  simp [Function.comp_def]

theorem intercalate {α : Type} {text : α → List Char} {parts : α → List Part}
    {separator : List Char} {between : List Part} (hs : Reads separator between) {as : List α}
    (h : ∀ a ∈ as, Reads (text a) (parts a)) :
    Reads (separator.intercalate (as.map text)) (between.intercalate (as.map parts)) := by
  induction as with
  | nil => exact nil
  | cons a rest ih =>
    have ha := h a List.mem_cons_self
    have hrest := ih fun b hb => h b (List.mem_cons_of_mem a hb)
    -- a separator is written only where another text follows
    cases rest with
    | nil => simpa using ha
    | cons b more =>
      simp only [List.map_cons, List.intercalate_cons_cons] at hrest ⊢
      exact (ha.append hs).append hrest

end Reads

theorem tokens?_cons {c : Char} (hq : c ≠ '"') (hd : c ≠ '-') (hw : isWord c = false)
    (rest : List Char) :
    tokens? (c :: rest) =
      (tokens? rest).map ((if c.isWhitespace then [] else [.sign c]) ++ ·) := by
  rw [tokens?, tokensAfter?, tokens?]
  · rw [hw]
    cases c.isWhitespace with
    | true => simp [wordToken]
    | false => simp [wordToken]
  · exact hq
  · intro _ he
    exact absurd he hd

theorem reads_whitespace {c : Char} (hs : c.isWhitespace = true) (hw : isWord c = false) :
    Reads [c] [] := by
  have hq : c ≠ '"' := by
    rintro rfl
    cases hs
  have hd : c ≠ '-' := by
    rintro rfl
    cases hs
  refine ⟨[], .nil, fun rest => ?_⟩
  rw [List.singleton_append, tokens?_cons hq hd hw, hs]
  rfl

theorem reads_space : Reads [' '] [] := reads_whitespace (by decide) (by decide)

theorem reads_lineFeed : Reads ['\n'] [] := reads_whitespace (by decide) (by decide)

theorem reads_sign {c : Char} (hq : c ≠ '"') (hd : c ≠ '-') (hw : isWord c = false)
    (hs : c.isWhitespace = false) : Reads [c] [.sign c] := by
  refine ⟨[.sign c], .cons (.sign c) .nil, fun rest => ?_⟩
  rw [List.singleton_append, tokens?_cons hq hd hw, hs]
  rfl

theorem reads_arrow : Reads ['-', '>'] [.arrow] :=
  ⟨[.arrow], .cons .arrow .nil, fun _ => rfl⟩

theorem reads_quoted {body : List Char} (h : Sealed body) {part : Part}
    (hp : Token.Says (.quoted body) part) : Reads ('"' :: (body ++ ['"'])) [part] := by
  refine ⟨[.quoted body], .cons hp .nil, fun rest => ?_⟩
  rw [List.cons_append, List.append_assoc, List.singleton_append, tokens?_quoted h]
  rfl

theorem reads_quote (text : String) : Reads (quote text.toList) [.name text] := by
  have hsealed : Sealed (text.toList.flatMap quoteChar) :=
    sealed_flatMap text.toList fun c _ => sealed_quoteChar c
  exact reads_quoted hsealed (.name (unquote?_flatMap_quoteChar text.toList))

/-! ## Words -/

theorem tokensAfter?_append_word {text : List Char} (h : ∀ c ∈ text, isWord c = true)
    (word rest : List Char) :
    tokensAfter? word (text ++ rest) = tokensAfter? (word ++ text) rest := by
  induction text generalizing word with
  | nil => rw [List.nil_append, List.append_nil]
  | cons c text ih =>
    have hc : isWord c = true := h c List.mem_cons_self
    have hq : c ≠ '"' := by
      rintro rfl
      exact absurd hc (by decide)
    have hd : c ≠ '-' := by
      rintro rfl
      exact absurd hc (by decide)
    rw [List.cons_append, tokensAfter?, if_pos hc, ih fun d hm => h d (List.mem_cons_of_mem c hm),
      List.append_assoc, List.singleton_append]
    · exact hq
    · intro _ he
      exact absurd he hd

/-- A word ends at the first character that is no part of one. -/
theorem tokensAfter?_cons_of_not_word {c : Char} (hc : isWord c = false) (word rest : List Char) :
    tokensAfter? word (c :: rest) = (tokens? (c :: rest)).map (wordToken word ++ ·) := by
  have hnil : wordToken [] = [] := rfl
  rw [tokens?]
  unfold tokensAfter?
  -- along the reader: the end, a quote, an arrow, any other character
  split
  · rename_i he
    cases he
  · simp [hnil, Function.comp_def]
  · simp [hnil, Function.comp_def]
  · rename_i he
    cases he
    rw [hc]
    cases c.isWhitespace with
    | true => simp [hnil]
    | false => simp [hnil, Function.comp_def]

theorem says_wordToken (text : String) :
    List.Forall₂ Token.Says (wordToken text.toList) (wordParts text) := by
  unfold wordToken wordParts
  split
  · exact .nil
  · exact .cons (.word text) .nil

/-- A word in front of a text that does not go on with it adds itself. -/
theorem Reads.after_word (text : String) (ht : text.toList.all isWord = true) {c : Char}
    (hc : isWord c = false) {more : List Char} {ps : List Part} (h : Reads (c :: more) ps) :
    Reads (text.toList ++ c :: more) (wordParts text ++ ps) := by
  obtain ⟨ts, hts, htokens⟩ := h
  refine ⟨wordToken text.toList ++ ts, List.rel_append (says_wordToken text) hts, fun rest => ?_⟩
  rw [List.append_assoc, tokens?, tokensAfter?_append_word (List.all_eq_true.mp ht),
    List.nil_append, List.cons_append, tokensAfter?_cons_of_not_word hc, ← List.cons_append,
    htokens, Option.map_map]
  simp [Function.comp_def]

/-! ## Lines -/

theorem reads_mark {c : Char} (h : c ∈ ['[', ']', '=', ',', ';', '\x7b', '\x7d']) :
    Reads [c] [.sign c] := by
  have hmarks : ∀ d ∈ ['[', ']', '=', ',', ';', '\x7b', '\x7d'],
      (d != '"' && d != '-' && !isWord d && !d.isWhitespace) = true :=
    List.all_eq_true.mp (by decide)
  have hc := hmarks c h
  simp only [Bool.and_eq_true, bne_iff_ne, Bool.not_eq_true'] at hc
  obtain ⟨⟨⟨hq, hd⟩, hw⟩, hs⟩ := hc
  exact reads_sign hq hd hw hs

theorem reads_spaces (n : Nat) : Reads (List.replicate n ' ') [] := by
  induction n with
  | zero => exact Reads.nil
  | succ n ih => exact reads_space.append ih

theorem reads_attribute {a : Attribute} (h : ∀ c ∈ a.1.toList, isWord c = true) :
    Reads (a.1.toList ++ '=' :: quote a.2.toList) (attributeParts a) := by
  have hvalue : Reads ('=' :: quote a.2.toList) [.sign '=', .name a.2] :=
    (reads_mark (by decide)).append (reads_quote a.2)
  exact Reads.after_word a.1 (List.all_eq_true.mpr h) (by decide) hvalue

theorem reads_brackets {attributes : List Attribute}
    (h : ∀ a ∈ attributes, ∀ c ∈ a.1.toList, isWord c = true) :
    Reads ('[' :: (writeAttributes attributes ++ [']'])) (bracketParts attributes) := by
  have hcomma : Reads [',', ' '] [.sign ','] := (reads_mark (by decide)).append reads_space
  have hlist : Reads (writeAttributes attributes)
      ([.sign ','].intercalate (attributes.map attributeParts)) :=
    hcomma.intercalate fun a ha => reads_attribute (h a ha)
  exact (reads_mark (by decide)).append (hlist.append (reads_mark (by decide)))

section Bracketed

variable {attributes : List Attribute} (h : ∀ a ∈ attributes, ∀ c ∈ a.1.toList, isWord c = true)
include h

theorem reads_bracketed_quote (id : String) :
    Reads (bracketed (quote id.toList) attributes) (.name id :: bracketParts attributes) := by
  have htext : bracketed (quote id.toList) attributes =
      quote id.toList ++ ([' '] ++ '[' :: (writeAttributes attributes ++ [']'])) := by
    simp [bracketed]
  rw [htext]
  exact (reads_quote id).append (reads_space.append (reads_brackets h))

theorem reads_bracketed_word (word : String) (hw : word.toList.all isWord = true) :
    Reads (bracketed word.toList attributes) (wordParts word ++ bracketParts attributes) := by
  have htext : bracketed word.toList attributes =
      word.toList ++ ' ' :: '[' :: (writeAttributes attributes ++ [']']) := by
    simp [bracketed]
  rw [htext]
  exact Reads.after_word word hw (by decide) (reads_space.append (reads_brackets h))

end Bracketed

theorem reads_lineAt {text : List Char} {ps : List Part} (h : Reads text ps) (level : Nat) :
    Reads (lineAt level text) ps := by
  have hline := ((reads_spaces (2 * level)).append h).append reads_lineFeed
  simpa [lineAt] using hline

theorem reads_statementAt {text : List Char} {ps : List Part} (h : Reads text ps) (level : Nat) :
    Reads (statementAt level text) (ps ++ [.sign ';']) :=
  reads_lineAt (h.append (reads_mark (by decide))) level

theorem reads_record (id entity : String) (fields : List String) :
    Reads (quote id.toList ++ " [label=\"".toList ++ recordLabel entity fields ++ "\"]".toList)
      [.name id, .sign '[', .word "label", .sign '=', .label (recordLabel entity fields),
        .sign ']'] := by
  have hopen : Reads ['['] [.sign '['] := reads_mark (by decide)
  have hclose : Reads [']'] [.sign ']'] := reads_mark (by decide)
  have hequals : Reads ['='] [.sign '='] := reads_mark (by decide)
  have hlabel : Reads ('"' :: (recordLabel entity fields ++ ['"']))
      [.label (recordLabel entity fields)] :=
    reads_quoted (sealed_recordLabel entity fields) (.label _)
  have hattribute := Reads.after_word "label" (by decide) (by decide) (hequals.append hlabel)
  have hline := (reads_quote id).append
    (reads_space.append (hopen.append (hattribute.append hclose)))
  simpa [wordParts] using hline

theorem reads_edge (source target : String) :
    Reads (quote source.toList ++ " -> ".toList ++ quote target.toList)
      [.name source, .arrow, .name target] := by
  have hline := (reads_quote source).append
    (reads_space.append (reads_arrow.append (reads_space.append (reads_quote target))))
  simpa using hline

theorem reads_clusterHead (name : String) :
    Reads ("subgraph ".toList ++ quote ("cluster_".toList ++ name.toList) ++ [' ', '\x7b'])
      [.word "subgraph", .name ("cluster_" ++ name), .sign '\x7b'] := by
  have hbrace : Reads ['\x7b'] [.sign '\x7b'] := reads_mark (by decide)
  have hname := reads_space.append
    ((reads_quote ("cluster_" ++ name)).append (reads_space.append hbrace))
  have hline := Reads.after_word "subgraph" (by decide) (by decide) hname
  simpa [wordParts, String.toList_append] using hline

namespace Statement

/-- The lines of a statement are read as its parts, at whatever level it stands. -/
theorem reads_write {s : Statement} (h : s.WellFormed) (level : Nat) :
    Reads (s.write level).1 s.parts := by
  cases s with
  | graphAttributes attributes =>
    exact reads_statementAt (reads_bracketed_word h.attributeNames "graph" (by decide)) level
  | nodeDefaults attributes =>
    exact reads_statementAt (reads_bracketed_word h.attributeNames "node" (by decide)) level
  | edgeDefaults attributes =>
    exact reads_statementAt (reads_bracketed_word h.attributeNames "edge" (by decide)) level
  | node id attributes =>
    cases attributes with
    | nil => exact reads_statementAt (reads_quote id) level
    | cons a rest => exact reads_statementAt (reads_bracketed_quote h.attributeNames id) level
  | recordNode id label =>
    obtain ⟨entity, fields, rfl⟩ := h.recordLabels id label rfl
    exact reads_statementAt (reads_record id entity fields) level
  | edge source target => exact reads_statementAt (reads_edge source target) level
  | openCluster name attributes =>
    have hgraph := reads_bracketed_word h.attributeNames "graph" (by decide)
    exact (reads_lineAt (reads_clusterHead name) level).append
      (reads_statementAt hgraph (level + 1))
  | closeCluster => exact reads_lineAt (reads_mark (by decide)) (level - 1)

theorem reads_writeAll {statements : List Statement} (h : ∀ s ∈ statements, s.WellFormed)
    (level : Nat) : Reads (writeAll level statements) (statements.flatMap parts) := by
  -- over the statements, for every level: it shows in the indentation only
  induction statements generalizing level with
  | nil => exact Reads.nil
  | cons s rest ih =>
    rw [writeAll, List.flatMap_cons]
    exact (reads_write (h s List.mem_cons_self) level).append
      (ih (fun t ht => h t (List.mem_cons_of_mem s ht)) _)

end Statement

theorem toList_source (statements : List Statement) : (source statements).toList =
    "digraph".toList ++ ' ' :: '\x7b' :: '\n' ::
      (Statement.writeAll 1 statements ++ ['\x7d', '\n']) := by
  have hhead : "digraph \x7b\n".toList = "digraph".toList ++ [' ', '\x7b', '\n'] := by decide
  have hend : "\x7d\n".toList = ['\x7d', '\n'] := by decide
  unfold source
  rw [String.toList_ofList, hhead, hend, List.append_assoc, List.append_assoc]
  rfl

/-- A drawing is read between its first word and its last brace. -/
theorem reads_source {statements : List Statement} (h : ∀ s ∈ statements, s.WellFormed) :
    Reads (source statements).toList
      ([.word "digraph", .sign '\x7b'] ++ statements.flatMap Statement.parts ++
        [.sign '\x7d']) := by
  have hopen : Reads ['\x7b'] [.sign '\x7b'] := reads_mark (by decide)
  have hclose : Reads ['\x7d'] [.sign '\x7d'] := reads_mark (by decide)
  have hbody := (Statement.reads_writeAll h 1).append (hclose.append reads_lineFeed)
  have hall := Reads.after_word "digraph" (by decide) (by decide)
    (reads_space.append (hopen.append (reads_lineFeed.append hbody)))
  rw [toList_source]
  exact hall

/-- Whatever texts a drawing is made of, its source is read as the parts of its statements in
their order between the first word with its brace and the last brace, each quoted part saying
the text that was put there; and a record label is read as the name of its entity and its
first ten fields. Nothing is asked of names and values, and clusters may even be closed that
were never opened. -/
theorem tokens?_source (statements : List Statement) (h : ∀ s ∈ statements, s.WellFormed) :
    (∃ tokens, tokens? (source statements).toList = some tokens ∧
      List.Forall₂ Token.Says tokens
        ([.word "digraph", .sign '\x7b'] ++ statements.flatMap Statement.parts ++
          [.sign '\x7d'])) ∧
    ∀ entity fields, recordCells? (recordLabel entity fields) =
      some ((recordTexts entity fields).map String.toList) := by
  obtain ⟨tokens, hsays, hread⟩ := reads_source h
  refine ⟨⟨tokens, ?_, hsays⟩, recordCells?_recordLabel⟩
  have hend : tokens? [] = some [] := rfl
  have hwhole := hread []
  rwa [List.append_nil, hend, Option.map_some, List.append_nil] at hwhole

/-- Quotes, backslashes, braces, bars and line feeds wherever a text can stand. -/
def hostileDrawing : List Statement := [
  .openCluster "\"\x7d" [("label", "];\n\\")],
  .recordNode "\\\"" (recordLabel "E\"|\x7d" ["\\", "<f>\n", ""]),
  .closeCluster,
  .edge "\" -> \"" "\\"]

theorem tokens?_source_hostileDrawing : (∀ s ∈ hostileDrawing, s.WellFormed) ∧
    (∃ tokens, tokens? (source hostileDrawing).toList = some tokens ∧
      List.Forall₂ Token.Says tokens [
        .word "digraph", .sign '\x7b',
        .word "subgraph", .name ("cluster_" ++ "\"\x7d"), .sign '\x7b',
        .word "graph", .sign '[', .word "label", .sign '=', .name "];\n\\", .sign ']', .sign ';',
        .name "\\\"", .sign '[', .word "label", .sign '=',
        .label (recordLabel "E\"|\x7d" ["\\", "<f>\n", ""]), .sign ']', .sign ';',
        .sign '\x7d',
        .name "\" -> \"", .arrow, .name "\\", .sign ';',
        .sign '\x7d']) ∧
    recordCells? (recordLabel "E\"|\x7d" ["\\", "<f>\n", ""]) =
      some ["E\"|\x7d".toList, "\\".toList, "<f>\n".toList, []] := by
  have hlabel : ∀ c ∈ "label".toList, isWord c = true := List.all_eq_true.mp (by decide)
  have hnames : ∀ s ∈ hostileDrawing, ∀ a ∈ s.attributes, ∀ c ∈ a.1.toList, isWord c = true := by
    simpa only [hostileDrawing, Statement.attributes, List.forall_mem_cons, List.not_mem_nil,
      false_imp_iff, implies_true, and_true] using hlabel
  have hlabels : ∀ s ∈ hostileDrawing, ∀ id label, s = .recordNode id label →
      ∃ entity fields, label = recordLabel entity fields := by
    intro s hs id label he
    simp only [hostileDrawing, List.mem_cons, List.not_mem_nil, or_false, he, reduceCtorEq,
      false_or, Statement.recordNode.injEq] at hs
    exact ⟨_, _, hs.2⟩
  have h : ∀ s ∈ hostileDrawing, s.WellFormed := fun s hs => ⟨hnames s hs, hlabels s hs⟩
  obtain ⟨htokens, hcells⟩ := tokens?_source hostileDrawing h
  exact ⟨h, htokens, hcells "E\"|\x7d" ["\\", "<f>\n", ""]⟩

end DesignGraph.Dot
