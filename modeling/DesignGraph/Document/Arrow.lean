import DesignGraph.Graph.RelationSet
import DesignGraph.Text.Blank
import DesignGraph.Text.Word

/-!
# Arrows

An arrow between two words relates them, wherever it stands. Blanks, line breaks
included, may surround it. In a chain of arrows an inner word takes part in two pairs.
-/

namespace DesignGraph.Document

open Text

/-- The text after an arrow that stands at its very start. -/
def afterArrow? : List Char → Option (List Char)
  | '→' :: rest => some rest
  | '-' :: '>' :: rest => some rest
  | _ => none

/-- The word at the start of a text, after any blanks. -/
def leadingWord (text : List Char) : List Char := (text.dropWhile isBlank).takeWhile isWord

/-- The word at the end of a text, before any blanks. The text is given last character
first. -/
def trailingWord (reversed : List Char) : List Char :=
  ((reversed.dropWhile isBlank).takeWhile isWord).reverse

/-- The pair around an arrow; nothing when a side has no word. -/
def arrowPair? (reversed after : List Char) : Option Relation :=
  let source := trailingWord reversed
  let target := leadingWord after
  if source.isEmpty || target.isEmpty then none
  else some ⟨String.ofList source, String.ofList target⟩

/-- The pairs of the arrows in a text, in order, when `reversed` is what stands before
that text, last character first. -/
def arrowPairsAfter (reversed : List Char) : List Char → List Relation
  | [] => []
  | c :: rest =>
    let here := ((afterArrow? (c :: rest)).bind (arrowPair? reversed)).toList
    here ++ arrowPairsAfter (c :: reversed) rest

/-- The pairs of all arrows in a text, in order. -/
def arrowPairs (text : List Char) : List Relation := arrowPairsAfter [] text

end DesignGraph.Document
