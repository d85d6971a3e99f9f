import DesignGraph.Proofs.Document.Names

/-!
# Where arrows stand between words

What the arrows of a text relate, said without a scan: the text is cut into an arrow, blanks
on either side of it, the whole word before and the whole word after them, and what is left
at both ends. The scan finds exactly these sites, each once and in the order of their arrows.
So a text of words with arrows between them gives each word with the next one.
-/
namespace DesignGraph.Document

open Text

def IsArrow (text : List Char) : Prop := text = ['→'] ∨ text = ['-', '>']

instance (text : List Char) : Decidable (IsArrow text) :=
  inferInstanceAs (Decidable (text = ['→'] ∨ text = ['-', '>']))

theorem afterArrow?_append {arrow : List Char} (h : IsArrow arrow) (rest : List Char) :
    afterArrow? (arrow ++ rest) = some rest := by
  rcases h with rfl | rfl <;> rfl

theorem exists_arrow_of_afterArrow? {text rest : List Char} (h : afterArrow? text = some rest) :
    ∃ arrow, IsArrow arrow ∧ arrow ++ rest = text := by
  rw [afterArrow?.eq_def] at h
  split at h
  · obtain rfl := Option.some.inj h
    exact ⟨['→'], .inl rfl, rfl⟩
  · obtain rfl := Option.some.inj h
    exact ⟨['-', '>'], .inr rfl, rfl⟩
  · cases h

/-- The two arrows begin with different characters, so a text tells which one it begins with. -/
theorem IsArrow.append_inj {a b s t : List Char} (ha : IsArrow a) (hb : IsArrow b)
    (h : a ++ s = b ++ t) : a = b ∧ s = t := by
  rcases ha with rfl | rfl <;> rcases hb with rfl | rfl <;> simp_all

/-! ## A word after blanks -/

/-- The text is blanks, then a word, then a rest that does not go on with the word. -/
structure WordCut (text blanks word rest : List Char) : Prop where
  joined : blanks ++ (word ++ rest) = text
  blanks : ∀ c ∈ blanks, isBlank c = true
  word : IsIdentifier word
  rest : ∀ c, rest.head? = some c → isWord c = false

theorem takeWhile_eq_nil_of_head? {p : Char → Bool} {text : List Char}
    (h : ∀ c, text.head? = some c → p c = false) : text.takeWhile p = [] := by
  cases text with
  | nil => rfl
  | cons c rest => rw [List.takeWhile_cons, h c rfl]; rfl

namespace WordCut

variable {text blanks word rest : List Char}

theorem leadingWord_eq (h : WordCut text blanks word rest) : leadingWord text = word := by
  have hstart : (word ++ rest).dropWhile isBlank = word ++ rest := by
    have hne : trimStart word ≠ [] := h.word.trimStart_eq.symm ▸ h.word.1
    have hword := trimStart_append_of_ne_nil hne rest
    rwa [h.word.trimStart_eq] at hword
  rw [← h.joined, leadingWord_append_of_blank h.blanks, leadingWord, hstart,
    List.takeWhile_append_of_pos h.word.2, takeWhile_eq_nil_of_head? h.rest, List.append_nil]

theorem takeWhile_isBlank (h : WordCut text blanks word rest) :
    text.takeWhile isBlank = blanks := by
  obtain ⟨c, tail, hc⟩ := List.exists_cons_of_ne_nil h.word.1
  have hblank : isBlank c = false := isBlank_of_isWord (h.word.isWord_of_head? (by rw [hc]; rfl))
  have hnil : (word ++ rest).takeWhile isBlank = [] := by
    rw [hc, List.cons_append, List.takeWhile_cons, hblank]
    rfl
  rw [← h.joined, List.takeWhile_append_of_pos h.blanks, hnil, List.append_nil]

/-- There is one way to cut a text like this. -/
theorem unique (h : WordCut text blanks word rest) {blanks' word' rest' : List Char}
    (h' : WordCut text blanks' word' rest') :
    blanks = blanks' ∧ word = word' ∧ rest = rest' := by
  obtain rfl : blanks = blanks' := h.takeWhile_isBlank.symm.trans h'.takeWhile_isBlank
  obtain rfl : word = word' := h.leadingWord_eq.symm.trans h'.leadingWord_eq
  refine ⟨rfl, rfl, ?_⟩
  have hjoined := h.joined.trans h'.joined.symm
  rwa [List.append_cancel_left_eq, List.append_cancel_left_eq] at hjoined

end WordCut

theorem exists_wordCut {text : List Char} (h : leadingWord text ≠ []) :
    ∃ blanks rest, WordCut text blanks (leadingWord text) rest := by
  refine ⟨text.takeWhile isBlank, (text.dropWhile isBlank).dropWhile isWord, ?_, ?_, ?_, ?_⟩
  · rw [leadingWord, List.takeWhile_append_dropWhile, List.takeWhile_append_dropWhile]
  · exact fun c hc => List.mem_takeWhile_imp hc
  · exact isIdentifier_leadingWord (List.isEmpty_eq_false_iff.mpr h)
  · intro c hc
    have hhead := List.head?_dropWhile_not isWord (text.dropWhile isBlank)
    rw [hc] at hhead
    simpa using hhead

theorem arrowPair?_eq_some_iff {reversed after : List Char} {r : Relation} :
    arrowPair? reversed after = some r ↔ leadingWord reversed ≠ [] ∧ leadingWord after ≠ [] ∧
      r = ⟨String.ofList (leadingWord reversed).reverse, String.ofList (leadingWord after)⟩ := by
  simp only [arrowPair?, trailingWord_eq_reverse, Bool.or_eq_true, List.isEmpty_iff,
    List.reverse_eq_nil_iff]
  by_cases hs : leadingWord reversed = []
  · simp [hs]
  by_cases ht : leadingWord after = []
  · simp [ht]
  simp [hs, ht, eq_comm]

/-! ## Sites -/

/-- An arrow with a word on each side of it, the blanks between them, and the rest of the
text at both ends. -/
structure ArrowSite where
  before : List Char
  source : List Char
  blanksBefore : List Char
  arrow : List Char
  blanksAfter : List Char
  target : List Char
  after : List Char
  deriving DecidableEq, Repr

namespace ArrowSite

/-- What stands in front of the arrow. -/
def front (site : ArrowSite) : List Char := site.before ++ site.source ++ site.blanksBefore

/-- What stands behind the arrow. -/
def back (site : ArrowSite) : List Char := site.blanksAfter ++ (site.target ++ site.after)

/-- Where the arrow stands. -/
def position (site : ArrowSite) : Nat := site.front.length

/-- The arrow relates the word before it to the word after it. -/
def relation (site : ArrowSite) : Relation :=
  ⟨String.ofList site.source, String.ofList site.target⟩

/-- The text is cut like this, and both words are whole. -/
structure StandsIn (site : ArrowSite) (text : List Char) : Prop where
  joined : site.front ++ site.arrow ++ site.back = text
  arrow : IsArrow site.arrow
  source : IsIdentifier site.source
  target : IsIdentifier site.target
  blanksBefore : ∀ c ∈ site.blanksBefore, isBlank c = true
  blanksAfter : ∀ c ∈ site.blanksAfter, isBlank c = true
  before : ∀ c, site.before.getLast? = some c → isWord c = false
  after : ∀ c, site.after.head? = some c → isWord c = false

namespace StandsIn

variable {site : ArrowSite} {text : List Char} (h : site.StandsIn text)
include h

/-- The word before the arrow, read backwards from it. -/
theorem sourceCut : WordCut site.front.reverse site.blanksBefore.reverse site.source.reverse
    site.before.reverse where
  joined := by simp [front]
  blanks c hc := h.blanksBefore c (List.mem_reverse.mp hc)
  word := h.source.reverse
  rest c hc := h.before c (by rwa [List.head?_reverse] at hc)

theorem targetCut : WordCut site.back site.blanksAfter site.target site.after :=
  ⟨rfl, h.blanksAfter, h.target, h.after⟩

/-- The arrow stands inside the text. -/
theorem position_lt : site.position < text.length := by
  have harrow : 0 < site.arrow.length := by
    rcases h.arrow with he | he <;> simp [he]
  rw [← h.joined, List.length_append, List.length_append, position]
  omega

/-- Where an arrow stands between words, the text says the rest: which arrow it is, the
blanks and the words. -/
theorem eq_of_position_eq {other : ArrowSite} (ho : other.StandsIn text)
    (hp : site.position = other.position) : site = other := by
  have hjoined := h.joined.trans ho.joined.symm
  rw [List.append_assoc, List.append_assoc] at hjoined
  obtain ⟨hfront, hrest⟩ := List.append_inj hjoined hp
  obtain ⟨harrow, hback⟩ := h.arrow.append_inj ho.arrow hrest
  have hsource := h.sourceCut
  rw [hfront] at hsource
  have htarget := h.targetCut
  rw [hback] at htarget
  obtain ⟨hblanks, hword, hbefore⟩ := hsource.unique ho.sourceCut
  obtain ⟨hblanks', hword', hafter⟩ := htarget.unique ho.targetCut
  cases site
  cases other
  simp_all

end StandsIn

end ArrowSite

/-- The scan finds a pair at a place if and only if an arrow stands there between words, and
these are the pair. -/
theorem pair_eq_some_iff {reversed text : List Char} {r : Relation} :
    (afterArrow? text).bind (arrowPair? reversed) = some r ↔
      ∃ site : ArrowSite, site.StandsIn (reversed.reverse ++ text) ∧
        site.position = reversed.length ∧ site.relation = r := by
  constructor
  · intro h
    obtain ⟨rest, hrest, hpair⟩ := Option.bind_eq_some_iff.mp h
    obtain ⟨arrow, harrow, rfl⟩ := exists_arrow_of_afterArrow? hrest
    obtain ⟨hsource, htarget, rfl⟩ := arrowPair?_eq_some_iff.mp hpair
    obtain ⟨blanks, before, hs⟩ := exists_wordCut hsource
    obtain ⟨blanks', after, ht⟩ := exists_wordCut htarget
    have hfront : before.reverse ++ (leadingWord reversed).reverse ++ blanks.reverse =
        reversed.reverse := by
      rw [← List.reverse_append, ← List.reverse_append, hs.joined]
    refine ⟨⟨before.reverse, (leadingWord reversed).reverse, blanks.reverse, arrow, blanks',
      leadingWord rest, after⟩,
      ⟨?_, harrow, hs.word.reverse, ht.word, ?_, ht.blanks, ?_, ht.rest⟩, ?_, rfl⟩
    · rw [ArrowSite.front, hfront, ArrowSite.back, ht.joined, List.append_assoc]
    · exact fun c hc => hs.blanks c (List.mem_reverse.mp hc)
    · intro c hc
      rw [List.getLast?_reverse] at hc
      exact hs.rest c hc
    · rw [ArrowSite.position, ArrowSite.front, hfront, List.length_reverse]
  · rintro ⟨site, h, hposition, rfl⟩
    have hjoined := h.joined
    rw [List.append_assoc] at hjoined
    obtain ⟨hfront, rfl⟩ := List.append_inj hjoined (by
      rw [List.length_reverse]
      exact hposition)
    have hsource : leadingWord reversed = site.source.reverse := by
      rw [← h.sourceCut.leadingWord_eq, hfront, List.reverse_reverse]
    have htarget : leadingWord site.back = site.target := h.targetCut.leadingWord_eq
    rw [afterArrow?_append h.arrow, Option.bind_some, arrowPair?_eq_some_iff, hsource, htarget,
      List.reverse_reverse]
    exact ⟨by simpa using h.source.1, h.target.1, rfl⟩

/-- From a place of the text on, the scan finds the sites that stand there or later. -/
theorem exists_sites_after (reversed text : List Char) :
    ∃ sites : List ArrowSite, arrowPairsAfter reversed text = sites.map ArrowSite.relation ∧
      (∀ site, site ∈ sites ↔
        site.StandsIn (reversed.reverse ++ text) ∧ reversed.length ≤ site.position) ∧
      sites.Pairwise fun a b => a.position < b.position := by
  induction text generalizing reversed with
  | nil =>
    refine ⟨[], rfl, fun site => ⟨nofun, ?_⟩, .nil⟩
    rintro ⟨hsite, hposition⟩
    have hlt := hsite.position_lt
    rw [List.append_nil, List.length_reverse] at hlt
    omega
  | cons c rest ih =>
    obtain ⟨sites, hpairs, hmem, hsorted⟩ := ih (c :: reversed)
    have htext : (c :: reversed).reverse ++ rest = reversed.reverse ++ c :: rest := by simp
    simp only [htext, List.length_cons] at hmem
    cases hhere : (afterArrow? (c :: rest)).bind (arrowPair? reversed) with
    | none =>
      refine ⟨sites, ?_, fun site => (hmem site).trans ?_, hsorted⟩
      · rw [arrowPairsAfter, hhere, hpairs]
        rfl
      · refine and_congr_right fun hsite => ⟨fun hlt => by omega, fun hle => ?_⟩
        refine Nat.lt_of_le_of_ne hle fun heq => ?_
        have hsome := pair_eq_some_iff.mpr ⟨site, hsite, heq.symm, rfl⟩
        rw [hhere] at hsome
        cases hsome
    | some r =>
      obtain ⟨first, hfirst, hposition, rfl⟩ := pair_eq_some_iff.mp hhere
      refine ⟨first :: sites, ?_, fun site => ?_, List.pairwise_cons.mpr ⟨?_, hsorted⟩⟩
      · rw [arrowPairsAfter, hhere, hpairs]
        rfl
      · rw [List.mem_cons, hmem]
        constructor
        · rintro (rfl | ⟨hsite, hlt⟩)
          · exact ⟨hfirst, hposition.ge⟩
          · exact ⟨hsite, by omega⟩
        · rintro ⟨hsite, hle⟩
          rcases Nat.eq_or_lt_of_le hle with heq | hlt
          · exact .inl (hsite.eq_of_position_eq hfirst (by omega))
          · exact .inr ⟨hsite, hlt⟩
      · intro site hsite
        have hlt := ((hmem site).mp hsite).2
        omega

/-! ## Chains -/

/-- An arrow with blanks around it and the word that it leads to. -/
structure ArrowLink where
  blanksBefore : List Char
  arrow : List Char
  blanksAfter : List Char
  word : List Char
  allBlank : ∀ c ∈ blanksBefore ++ blanksAfter, isBlank c = true
  isArrow : IsArrow arrow
  isIdentifier : IsIdentifier word

/-- A first word, and links that lead on from word to word. -/
structure ArrowChain where
  first : List Char
  links : List ArrowLink
  isIdentifier : IsIdentifier first

def ArrowLink.text (link : ArrowLink) : List Char :=
  link.blanksBefore ++ (link.arrow ++ (link.blanksAfter ++ link.word))

def ArrowChain.text (chain : ArrowChain) : List Char :=
  chain.first ++ chain.links.flatMap ArrowLink.text

def ArrowChain.words (chain : ArrowChain) : List (List Char) :=
  chain.first :: chain.links.map ArrowLink.word

/-- Each word of these with the one after it. -/
def consecutive (words : List (List Char)) : List Relation :=
  words.zipWith (fun a b => ⟨String.ofList a, String.ofList b⟩) words.tail

theorem beginsNoArrow_of_isWord {c : Char} (hc : isWord c = true) : BeginsNoArrow c := by
  refine ⟨?_, ?_⟩ <;> rintro rfl <;> exact absurd hc (by decide +kernel)

/-- A text that begins with an arrow, or with blanks and an arrow, does not begin with part of
a word; and the same holds read backwards. -/
theorem isWord_of_head?_arrow {run rest : List Char} {arrow : List Char} (ha : IsArrow arrow)
    (hmem : ∀ d ∈ arrow, d ∈ run) (hrun : ∀ d ∈ run, d ∈ arrow ∨ isBlank d = true) {c : Char}
    (hc : (run ++ rest).head? = some c) : isWord c = false := by
  have hsigns : (arrow.all fun d => !isWord d) = true := by
    rcases ha with rfl | rfl <;> decide +kernel
  have hsign : ∀ d ∈ arrow, isWord d = false := by simpa using hsigns
  have hne : run ≠ [] := by
    obtain ⟨d, hd⟩ : ∃ d, d ∈ arrow := by
      rcases ha with rfl | rfl <;> exact ⟨_, List.mem_cons_self⟩
    exact List.ne_nil_of_mem (hmem d hd)
  rw [List.head?_append_of_ne_nil _ hne] at hc
  rcases hrun c (List.mem_of_head? hc) with h | h
  · exact hsign c h
  · exact isWord_of_isBlank h

/-- An arrow gives its pair where it begins and nothing else. -/
theorem arrowPairsAfter_append_arrow {arrow : List Char} (h : IsArrow arrow)
    (reversed text : List Char) :
    arrowPairsAfter reversed (arrow ++ text) =
      (arrowPair? reversed text).toList ++ arrowPairsAfter (arrow.reverse ++ reversed) text := by
  rcases h with rfl | rfl <;> rfl

namespace ArrowLink

variable (link : ArrowLink)

theorem isBlank_of_mem_blanksBefore {c : Char} (hc : c ∈ link.blanksBefore) : isBlank c = true :=
  link.allBlank c (List.mem_append_left _ hc)

theorem isBlank_of_mem_blanksAfter {c : Char} (hc : c ∈ link.blanksAfter) : isBlank c = true :=
  link.allBlank c (List.mem_append_right _ hc)

/-- What a link begins with is no part of a word. -/
theorem isWord_of_head?_text {rest : List Char} {c : Char}
    (hc : (link.text ++ rest).head? = some c) : isWord c = false := by
  rw [text, ← List.append_assoc, List.append_assoc] at hc
  refine isWord_of_head?_arrow link.isArrow ?_ ?_ hc
  · exact fun d hd => List.mem_append_right _ hd
  · exact fun d hd => (List.mem_append.mp hd).symm.imp_right link.isBlank_of_mem_blanksBefore

/-- The word of a link is whole if what follows does not go on with it. -/
theorem targetCut {rest : List Char} (hrest : ∀ c, rest.head? = some c → isWord c = false) :
    WordCut (link.blanksAfter ++ (link.word ++ rest)) link.blanksAfter link.word rest :=
  ⟨rfl, fun _ => link.isBlank_of_mem_blanksAfter, link.isIdentifier, hrest⟩

/-- The word of a link is the one that the next arrow finds, whatever stands before. -/
theorem leadingWord_reverse_text (reversed : List Char) :
    leadingWord (link.text.reverse ++ reversed) = link.word.reverse := by
  have hcut : WordCut (link.text.reverse ++ reversed) [] link.word.reverse
      (link.blanksAfter.reverse ++ link.arrow.reverse ++
        (link.blanksBefore.reverse ++ reversed)) := by
    refine ⟨by simp [text], nofun, link.isIdentifier.reverse, fun c hc => ?_⟩
    refine isWord_of_head?_arrow link.isArrow ?_ ?_ hc
    · exact fun d hd => List.mem_append_right _ (List.mem_reverse.mpr hd)
    · intro d hd
      rcases List.mem_append.mp hd with hd | hd
      · exact .inr (link.isBlank_of_mem_blanksAfter (List.mem_reverse.mp hd))
      · exact .inl (List.mem_reverse.mp hd)
  exact hcut.leadingWord_eq

/-- A link gives the pair of the word before it and its own. -/
theorem arrowPairsAfter_text {reversed word rest : List Char} (hw : IsIdentifier word)
    (hr : leadingWord reversed = word.reverse)
    (hrest : ∀ c, rest.head? = some c → isWord c = false) :
    arrowPairsAfter reversed (link.text ++ rest) =
      ⟨String.ofList word, String.ofList link.word⟩ ::
        arrowPairsAfter (link.text.reverse ++ reversed) rest := by
  have hback : leadingWord (link.blanksBefore.reverse ++ reversed) = word.reverse := by
    rw [leadingWord_append_of_blank fun c hc =>
      link.isBlank_of_mem_blanksBefore (List.mem_reverse.mp hc), hr]
  have hpair : arrowPair? (link.blanksBefore.reverse ++ reversed)
      (link.blanksAfter ++ (link.word ++ rest)) =
        some ⟨String.ofList word, String.ofList link.word⟩ := by
    rw [arrowPair?_eq_some_iff, hback, (link.targetCut hrest).leadingWord_eq, List.reverse_reverse]
    exact ⟨by simpa using hw.1, link.isIdentifier.1, rfl⟩
  have hword : ∀ c ∈ link.word, BeginsNoArrow c := fun c hc =>
    beginsNoArrow_of_isWord (link.isIdentifier.2 c hc)
  rw [text, List.append_assoc, List.append_assoc, List.append_assoc,
    arrowPairsAfter_append_of_blank fun _ => link.isBlank_of_mem_blanksBefore,
    arrowPairsAfter_append_arrow link.isArrow, hpair,
    arrowPairsAfter_append_of_blank fun _ => link.isBlank_of_mem_blanksAfter,
    arrowPairsAfter_append_of_beginsNoArrow hword]
  simp

end ArrowLink

/-- After a word, links give the pairs of consecutive words. -/
theorem arrowPairsAfter_links (links : List ArrowLink) {reversed word : List Char}
    (hw : IsIdentifier word) (hr : leadingWord reversed = word.reverse) :
    arrowPairsAfter reversed (links.flatMap ArrowLink.text) =
      consecutive (word :: links.map ArrowLink.word) := by
  -- along the chain; of what stands before only the last word is needed
  induction links generalizing reversed word with
  | nil => rfl
  | cons link more ih =>
    have hrest : ∀ c, (more.flatMap ArrowLink.text).head? = some c → isWord c = false := by
      intro c hc
      cases more with
      | nil => cases hc
      | cons next others => exact next.isWord_of_head?_text hc
    rw [List.flatMap_cons, link.arrowPairsAfter_text hw hr hrest,
      ih link.isIdentifier (link.leadingWord_reverse_text reversed)]
    rfl

/-- Words with arrows between them are related each to the next one, whatever blanks there
are around the arrows. -/
theorem arrowPairs_chain (chain : ArrowChain) :
    arrowPairs chain.text = consecutive chain.words := by
  have hcut : WordCut (chain.first.reverse ++ []) [] chain.first.reverse [] :=
    ⟨rfl, nofun, chain.isIdentifier.reverse, nofun⟩
  rw [arrowPairs, ArrowChain.text, arrowPairsAfter_append_of_beginsNoArrow fun c hc =>
    beginsNoArrow_of_isWord (chain.isIdentifier.2 c hc)]
  exact arrowPairsAfter_links chain.links chain.isIdentifier hcut.leadingWord_eq

/-- The pairs that the arrows of a text give are, one for one and in order, the ways to cut the
text into an arrow with blanks around it and the whole words before and behind these. Each
arrow gives one pair at most, and words with arrows between them give each word with the next.
-/
theorem arrowPairs_eq_sites :
    (∀ text, ∃ sites : List ArrowSite, arrowPairs text = sites.map ArrowSite.relation ∧
      (∀ site, site ∈ sites ↔ site.StandsIn text) ∧
      sites.Pairwise fun a b => a.position < b.position) ∧
    (∀ text (a b : ArrowSite), a.StandsIn text → b.StandsIn text → a.position = b.position →
      a = b) ∧
    ∀ chain : ArrowChain, arrowPairs chain.text = consecutive chain.words := by
  refine ⟨fun text => ?_, fun text a b ha hb => ha.eq_of_position_eq hb, arrowPairs_chain⟩
  obtain ⟨sites, hpairs, hmem, hsorted⟩ := exists_sites_after [] text
  refine ⟨sites, hpairs, fun site => (hmem site).trans ?_, hsorted⟩
  simp

/-- An arrow with a second hyphen, which has no word before it, and then two that have both
their words, the first of them across a line break. -/
def relay : List Char :=
  ['a', ' ', '-', '-', '>', ' ', 'b', ' ', '-', '>', '\n', ' ', 'c', '→', 'd']

def relaySite : ArrowSite where
  before := ['a', ' ', '-', '-', '>', ' ']
  source := ['b']
  blanksBefore := [' ']
  arrow := ['-', '>']
  blanksAfter := ['\n', ' ']
  target := ['c']
  after := ['→', 'd']

/-- The part of the text from its second word on. -/
def relayChain : ArrowChain where
  first := ['b']
  links := [
    ⟨[' '], ['-', '>'], ['\n', ' '], ['c'], List.all_eq_true.mp (by decide), by decide, by decide⟩,
    ⟨[], ['→'], [], ['d'], List.all_eq_true.mp (by decide), by decide, by decide⟩]
  isIdentifier := by decide

theorem arrowPairs_relay :
    relaySite.StandsIn relay ∧
    (∃ sites : List ArrowSite, arrowPairs relay = sites.map ArrowSite.relation ∧
      relaySite ∈ sites) ∧
    (∀ other : ArrowSite, other.StandsIn relay → relaySite.position = other.position →
      relaySite = other) ∧
    arrowPairs relayChain.text = [⟨"b", "c"⟩, ⟨"c", "d"⟩] := by
  obtain ⟨hsites, hone, hchain⟩ := arrowPairs_eq_sites
  have hsite : relaySite.StandsIn relay := by
    refine ⟨rfl, by decide, by decide, by decide, List.all_eq_true.mp (by decide),
      List.all_eq_true.mp (by decide), ?_, ?_⟩
    · rintro c ⟨⟩
      decide
    · rintro c ⟨⟩
      decide +kernel
  obtain ⟨sites, hpairs, hmem, -⟩ := hsites relay
  exact ⟨hsite, ⟨sites, hpairs, (hmem relaySite).mpr hsite⟩,
    fun other ho => hone relay relaySite other hsite ho, hchain relayChain⟩

end DesignGraph.Document
