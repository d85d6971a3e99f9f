import DesignGraph.Dot.Quote
import DesignGraph.Text.Word
import Mathlib.Data.List.Forall2

/-!
# Reading DOT

A reader of DOT source that knows nothing of how it is written. A quote opens a quoted
token, in which a backslash takes the next character with it, and the next quote closes it.
Outside, word characters make words, a hyphen with a closing angle an arrow, and any other
character but a space is a sign of its own.

What a quoted token says depends on where it stands: a name or an attribute value is
unescaped, a record label is split into its cells first.
-/
namespace DesignGraph.Dot

open Text

inductive Token where
  | word (text : List Char)
  | sign (c : Char)
  | arrow
  /-- What stands between two quotes, as it is written there. -/
  | quoted (body : List Char)
  deriving DecidableEq, Repr

/-- The word that ends here, if there is one. -/
def wordToken (word : List Char) : List Token := if word.isEmpty then [] else [.word word]

mutual

/-- The tokens of a text that stands after part of a word; nothing when a quoted token is
left open. -/
def tokensAfter? (word : List Char) : List Char → Option (List Token)
  | [] => some (wordToken word)
  | '"' :: rest =>
    (quotedTokens? rest).map fun (body, more) => wordToken word ++ .quoted body :: more
  | '-' :: '>' :: rest => (tokensAfter? [] rest).map (wordToken word ++ .arrow :: ·)
  | c :: rest =>
    if isWord c then tokensAfter? (word ++ [c]) rest
    else if c.isWhitespace then (tokensAfter? [] rest).map (wordToken word ++ ·)
    else (tokensAfter? [] rest).map (wordToken word ++ .sign c :: ·)

/-- The rest of a quoted token and the tokens after it. -/
def quotedTokens? : List Char → Option (List Char × List Token)
  | [] => none
  | '"' :: rest => (tokensAfter? [] rest).map fun more => ([], more)
  | '\\' :: c :: rest => (quotedTokens? rest).map fun (body, more) => ('\\' :: c :: body, more)
  | c :: rest => (quotedTokens? rest).map fun (body, more) => (c :: body, more)

end

/-- The tokens of a text; nothing when a quoted token is left open. -/
def tokens? (text : List Char) : Option (List Token) := tokensAfter? [] text

/-- The name that a quoted token stands for: backslashes give a backslash, a quote or a line
feed, and no other escape is known. -/
def unquote? : List Char → Option (List Char)
  | [] => some []
  | '\\' :: '\\' :: rest => (unquote? rest).map ('\\' :: ·)
  | '\\' :: '"' :: rest => (unquote? rest).map ('"' :: ·)
  | '\\' :: 'n' :: rest => (unquote? rest).map ('\n' :: ·)
  | c :: rest => if c = '\\' ∨ c = '"' then none else (unquote? rest).map (c :: ·)

/-- The rest of a cell of a record and the cells after it, up to the brace that closes the
record and ends the text. Bars that no backslash escapes divide the cells; a backslash goes
and the character after it stays; other marks of record labels do not stand alone. -/
def cellsToBrace? : List Char → Option (List Char × List (List Char))
  | [] => none
  | ['\x7d'] => some ([], [])
  | '\\' :: c :: rest => (cellsToBrace? rest).map fun (cell, more) => (c :: cell, more)
  | '|' :: rest => (cellsToBrace? rest).map fun (cell, more) => ([], cell :: more)
  | c :: rest =>
    if c ∈ ['\x7b', '\x7d', '<', '>', '"', '\\'] then none
    else (cellsToBrace? rest).map fun (cell, more) => (c :: cell, more)

/-- The cells of a record label. -/
def recordCells? : List Char → Option (List (List Char))
  | '\x7b' :: rest => (cellsToBrace? rest).map fun (cell, more) => cell :: more
  | _ => none

/-! ## Texts that keep to themselves inside a quoted token -/

/-- Inside a quoted token the text is read as it stands, whatever follows it. -/
def Sealed (text : List Char) : Prop :=
  ∀ rest, quotedTokens? (text ++ rest) =
    (quotedTokens? rest).map fun (body, more) => (text ++ body, more)

theorem sealed_nil : Sealed [] := by
  intro rest
  simp

theorem Sealed.append {a b : List Char} (ha : Sealed a) (hb : Sealed b) : Sealed (a ++ b) := by
  intro rest
  rw [List.append_assoc, ha, hb, Option.map_map]
  simp [Function.comp_def]

theorem sealed_flatMap {α : Type} {f : α → List Char} (as : List α) (h : ∀ a ∈ as, Sealed (f a)) :
    Sealed (as.flatMap f) := by
  induction as with
  | nil => exact sealed_nil
  | cons a rest ih =>
    rw [List.flatMap_cons]
    exact (h a List.mem_cons_self).append (ih fun b hb => h b (List.mem_cons_of_mem a hb))

theorem Sealed.intercalate {separator : List Char} (hs : Sealed separator)
    {texts : List (List Char)} (h : ∀ text ∈ texts, Sealed text) :
    Sealed (separator.intercalate texts) := by
  induction texts with
  | nil => exact sealed_nil
  | cons text rest ih =>
    have htext := h text List.mem_cons_self
    have hrest := ih fun other ho => h other (List.mem_cons_of_mem text ho)
    cases rest with
    | nil => rwa [List.intercalate_singleton]
    | cons next more =>
      rw [List.intercalate_cons_cons]
      exact (htext.append hs).append hrest

theorem sealed_escaped (c : Char) : Sealed ['\\', c] := fun _ => rfl

theorem sealed_singleton {c : Char} (hq : c ≠ '"') (hb : c ≠ '\\') : Sealed [c] := by
  intro rest
  rw [List.singleton_append, quotedTokens?]
  · rfl
  · exact hq
  · intro _ _ he
    exact absurd he hb

/-- Between quotes such a text makes one token. -/
theorem tokens?_quoted {body : List Char} (h : Sealed body) (rest : List Char) :
    tokens? ('"' :: (body ++ '"' :: rest)) = (tokens? rest).map (.quoted body :: ·) := by
  rw [tokens?, tokensAfter?, h, quotedTokens?, Option.map_map, Option.map_map, tokens?]
  simp [Function.comp_def, wordToken]

end DesignGraph.Dot
