import DesignGraph.Proofs.Dot.Source

/-!
# What a drawing shows

A reader of DOT source that goes by statements: it cuts the tokens at semicolons and braces,
takes a name alone for a node, a name with a record label for a record, and two names with an
arrow between them for an edge. Attributes and the heads of graphs and clusters show nothing by
themselves, and anything else is refused. Main statement: the source of a drawing shows what
its statements show, in their order, in clusters and outside.
-/
namespace DesignGraph.Dot

open Text

/-- What one statement of a source shows. -/
inductive Shown where
  | node (id : String)
  | record (id : String) (cells : List String)
  | edge (source target : String)
  deriving DecidableEq, Repr

def nameIn? (body : List Char) : Option String := (unquote? body).map String.ofList

/-- The words with which statements begin that show nothing by themselves. -/
def keywords : List String := ["digraph", "subgraph", "graph", "node", "edge"]

/-- What the tokens of one statement show; nothing at all if they make no known statement. -/
def statementShows? : List Token → Option (List Shown)
  | [] => some []
  | .word word :: _ => if String.ofList word ∈ keywords then some [] else none
  | [.quoted id] => (nameIn? id).map fun id => [.node id]
  | [.quoted source, .arrow, .quoted target] => do
    return [.edge (← nameIn? source) (← nameIn? target)]
  | [.quoted id, .sign '[', .word word, .sign '=', .quoted label, .sign ']'] =>
    if String.ofList word = "label" then do
      return [.record (← nameIn? id) ((← recordCells? label).map String.ofList)]
    else none
  | _ => none

/-- A semicolon ends a statement, and so does a brace that begins or ends a graph. -/
def isEndMark (c : Char) : Bool := c == ';' || c == '\x7b' || c == '\x7d'

def Token.endsStatement : Token → Bool
  | .sign c => isEndMark c
  | _ => false

/-- What tokens show, statement by statement. -/
def shownIn? (tokens : List Token) : Option (List Shown) :=
  ((tokens.splitOnP Token.endsStatement).mapM statementShows?).map List.flatten

/-- What a source shows. -/
def shown? (text : List Char) : Option (List Shown) := (tokens? text).bind shownIn?

/-- What a statement of a drawing is meant to show. -/
def Statement.shows : Statement → List Shown
  | .node id _ => [.node id]
  | .recordNode id label => [.record id (((recordCells? label).getD []).map String.ofList)]
  | .edge source target => [.edge source target]
  | _ => []

/-- The statement can be read like this: it is well-formed, and a node has a name only. -/
structure Statement.Readable (s : Statement) : Prop extends s.WellFormed where
  bareNodes : ∀ id attributes, s = .node id attributes → attributes = []

/-! ## Parts of whole statements -/

def Part.endsStatement : Part → Bool
  | .sign c => isEndMark c
  | _ => false

theorem Token.Says.endsStatement_eq {token : Token} {part : Part} (h : Token.Says token part) :
    token.endsStatement = part.endsStatement := by
  cases h <;> rfl

theorem endsStatement_of_says {tokens : List Token} {parts : List Part}
    (h : List.Forall₂ Token.Says tokens parts) (hp : ∀ part ∈ parts, part.endsStatement = false) :
    ∀ token ∈ tokens, token.endsStatement = false := by
  induction h with
  | nil => exact fun _ hm => absurd hm List.not_mem_nil
  | cons hsaid _ ih =>
    rw [List.forall_mem_cons] at hp ⊢
    exact ⟨hsaid.endsStatement_eq.trans hp.1, ih hp.2⟩

theorem exists_says_append {tokens : List Token} {ps qs : List Part}
    (h : List.Forall₂ Token.Says tokens (ps ++ qs)) :
    ∃ ts us, tokens = ts ++ us ∧ List.Forall₂ Token.Says ts ps ∧ List.Forall₂ Token.Says us qs :=
  ⟨tokens.take ps.length, tokens.drop ps.length, (List.take_append_drop _ _).symm,
    List.forall₂_take_append tokens ps qs h, List.forall₂_drop_append tokens ps qs h⟩

theorem Token.Says.exists_name {token : Token} {text : String} (h : Token.Says token (.name text)) :
    ∃ body, token = .quoted body ∧ nameIn? body = some text := by
  cases h with
  | name hbody => exact ⟨_, rfl, by rw [nameIn?, hbody, Option.map_some, String.ofList_toList]⟩

/-- However the parts are written, their tokens show this, whatever tokens follow. -/
def Shows (parts : List Part) (shown : List Shown) : Prop :=
  ∀ tokens, List.Forall₂ Token.Says tokens parts →
    ∀ rest, shownIn? (tokens ++ rest) = (shownIn? rest).map (shown ++ ·)

namespace Shows

theorem nil : Shows [] [] := by
  rintro _ ⟨⟩ rest
  simp

theorem append {ps qs : List Part} {as bs : List Shown} (hp : Shows ps as) (hq : Shows qs bs) :
    Shows (ps ++ qs) (as ++ bs) := by
  intro tokens h rest
  obtain ⟨ts, us, rfl, hts, hus⟩ := exists_says_append h
  rw [List.append_assoc, hp ts hts, hq us hus, Option.map_map]
  simp [Function.comp_def]

/-- One statement with the sign that ends it. -/
theorem statement {body : List Part} (hbody : ∀ part ∈ body, part.endsStatement = false)
    {last : Char} (hlast : isEndMark last = true) {shown : List Shown}
    (h : ∀ tokens, List.Forall₂ Token.Says tokens body → statementShows? tokens = some shown) :
    Shows (body ++ [.sign last]) shown := by
  intro tokens hsaid rest
  obtain ⟨ts, us, rfl, hts, hus⟩ := exists_says_append hsaid
  obtain ⟨_, _, ⟨⟩, ⟨⟩, rfl⟩ := List.forall₂_cons_right_iff.mp hus
  have hinner : ∀ token ∈ ts, token.endsStatement = false := endsStatement_of_says hts hbody
  have hsplit : (ts ++ .sign last :: rest).splitOnP Token.endsStatement =
      ts :: rest.splitOnP Token.endsStatement :=
    List.splitOnP_append_cons_of_forall_mem hinner (.sign last) hlast rest
  rw [List.append_assoc, List.singleton_append, shownIn?, shownIn?, hsplit, List.mapM_cons,
    h ts hts]
  cases (rest.splitOnP Token.endsStatement).mapM statementShows? with
  | none => rfl
  | some found => rfl

/-- A statement that begins with a keyword shows nothing, however it goes on. -/
theorem keyword {word : String} (hword : word ∈ keywords) {parts : List Part}
    (hparts : ∀ part ∈ parts, part.endsStatement = false) {last : Char}
    (hlast : isEndMark last = true) :
    Shows (.word word :: (parts ++ [.sign last])) [] := by
  have hbody : ∀ part ∈ Part.word word :: parts, part.endsStatement = false :=
    List.forall_mem_cons.mpr ⟨rfl, hparts⟩
  refine statement hbody hlast fun tokens hsaid => ?_
  obtain ⟨_, rest, ⟨⟩, -, rfl⟩ := List.forall₂_cons_right_iff.mp hsaid
  rw [statementShows?, String.ofList_toList, if_pos hword]

/-- A mark with no statement before it. -/
theorem bare {last : Char} (hlast : isEndMark last = true) : Shows [.sign last] [] := by
  have hbody : ∀ part ∈ ([] : List Part), part.endsStatement = false := by simp
  refine statement hbody hlast ?_
  rintro _ ⟨⟩
  rfl

theorem node (id : String) : Shows [.name id, .sign ';'] [.node id] := by
  have hbody : ∀ part ∈ [Part.name id], part.endsStatement = false := by
    simp [Part.endsStatement, isEndMark]
  refine statement hbody rfl ?_
  rintro _ (_ | ⟨hid, _ | _⟩)
  obtain ⟨body, rfl, hname⟩ := hid.exists_name
  rw [statementShows?, hname, Option.map_some]

theorem edge (source target : String) :
    Shows [.name source, .arrow, .name target, .sign ';'] [.edge source target] := by
  have hbody : ∀ part ∈ [Part.name source, .arrow, .name target], part.endsStatement = false := by
    simp [Part.endsStatement, isEndMark]
  refine statement hbody rfl ?_
  rintro _ (_ | ⟨hsource, _ | ⟨⟨⟩, _ | ⟨htarget, _ | _⟩⟩⟩)
  obtain ⟨a, rfl, ha⟩ := hsource.exists_name
  obtain ⟨b, rfl, hb⟩ := htarget.exists_name
  rw [statementShows?, ha, hb]
  rfl

theorem record (id : String) {label : List Char} {cells : List String}
    (hlabel : recordCells? label = some (cells.map String.toList)) :
    Shows [.name id, .sign '[', .word "label", .sign '=', .label label, .sign ']', .sign ';']
      [.record id cells] := by
  have hbody : ∀ part ∈ [Part.name id, .sign '[', .word "label", .sign '=', .label label,
      .sign ']'], part.endsStatement = false := by
    simp [Part.endsStatement, isEndMark]
  refine statement hbody rfl ?_
  rintro _ (_ | ⟨hid, _ | ⟨⟨⟩, _ | ⟨⟨⟩, _ | ⟨⟨⟩, _ | ⟨⟨⟩, _ | ⟨⟨⟩, _ | _⟩⟩⟩⟩⟩⟩)
  obtain ⟨body, rfl, hname⟩ := hid.exists_name
  rw [statementShows?, if_pos String.ofList_toList, hname, hlabel]
  simp

end Shows

theorem endsStatement_of_mem_bracketParts (attributes : List Attribute) :
    ∀ part ∈ bracketParts attributes, part.endsStatement = false := by
  have hattribute : ∀ a, ∀ part ∈ attributeParts a, part.endsStatement = false := by
    intro a
    unfold attributeParts wordParts
    split <;> simp [Part.endsStatement, isEndMark]
  have hlist : ∀ part ∈ [Part.sign ','].intercalate (attributes.map attributeParts),
      part.endsStatement = false := by
    induction attributes with
    | nil => simp
    | cons a rest ih =>
      -- a comma is written only where another attribute follows
      cases rest with
      | nil => simpa using hattribute a
      | cons b more =>
        simp only [List.map_cons, List.intercalate_cons_cons, List.forall_mem_append] at ih ⊢
        exact ⟨⟨hattribute a, by simp [Part.endsStatement, isEndMark]⟩, ih⟩
  simpa [bracketParts, Part.endsStatement, isEndMark, or_imp, forall_and] using hlist

namespace Statement

theorem shows_recordNode (id entity : String) (fields : List String) :
    (recordNode id (recordLabel entity fields)).shows =
      [.record id (recordTexts entity fields)] := by
  simp [shows, recordCells?_recordLabel]

theorem shows_parts {s : Statement} (h : s.Readable) : Shows s.parts s.shows := by
  have hbrackets := endsStatement_of_mem_bracketParts
  cases s with
  | graphAttributes attributes => exact .keyword (by decide) (hbrackets attributes) rfl
  | nodeDefaults attributes => exact .keyword (by decide) (hbrackets attributes) rfl
  | edgeDefaults attributes => exact .keyword (by decide) (hbrackets attributes) rfl
  | node id attributes =>
    obtain rfl := h.bareNodes id attributes rfl
    exact .node id
  | recordNode id label =>
    obtain ⟨entity, fields, rfl⟩ := h.recordLabels id label rfl
    rw [shows_recordNode]
    exact .record id (recordCells?_recordLabel entity fields)
  | edge source target => exact .edge source target
  | openCluster name attributes =>
    -- two statements: the head of the cluster, up to its brace, and its attributes
    have hname : ∀ part ∈ [Part.name ("cluster_" ++ name)], part.endsStatement = false := by
      simp [Part.endsStatement, isEndMark]
    have hgraph : Shows (.word "graph" :: (bracketParts attributes ++ [.sign ';'])) [] :=
      .keyword (by decide) (hbrackets attributes) rfl
    exact (Shows.keyword (by decide) hname rfl).append hgraph
  | closeCluster => exact .bare rfl

end Statement

theorem shows_flatMap {statements : List Statement} (h : ∀ s ∈ statements, s.Readable) :
    Shows (statements.flatMap Statement.parts) (statements.flatMap Statement.shows) := by
  induction statements with
  | nil => exact .nil
  | cons s rest ih =>
    rw [List.forall_mem_cons] at h
    exact (Statement.shows_parts h.1).append (ih h.2)

/-- The source of a drawing shows what its statements show. -/
theorem shown?_source {statements : List Statement} (h : ∀ s ∈ statements, s.Readable) :
    shown? (source statements).toList = some (statements.flatMap Statement.shows) := by
  have hopen : Shows [.word "digraph", .sign '\x7b'] [] :=
    .keyword (by decide) (fun _ hm => absurd hm List.not_mem_nil) rfl
  have hclose : Shows [.sign '\x7d'] [] := .bare rfl
  have hshows := (hopen.append (shows_flatMap h)).append hclose
  obtain ⟨tokens, hsaid, hread⟩ := reads_source fun s hs => (h s hs).toWellFormed
  have htokens : tokens? (source statements).toList = some tokens := by
    have hend : tokens? [] = some [] := rfl
    have hwhole := hread []
    rwa [List.append_nil, hend, Option.map_some, List.append_nil] at hwhole
  have hend : shownIn? [] = some [] := rfl
  have hwhole := hshows tokens hsaid []
  rw [List.append_nil, hend, Option.map_some, List.append_nil, List.append_nil,
    List.nil_append] at hwhole
  rw [shown?, htokens, Option.bind_some, hwhole]

end DesignGraph.Dot
