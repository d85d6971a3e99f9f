import DesignGraph.Text.Blank

/-!
# Trimming and comparing text

Trimming takes characters of a class off the ends of a text. Comparison without regard
to case knows the letters of ASCII alone, as the fixed words it is used for do.
-/

namespace DesignGraph.Text

/-- The text without the longest run of such characters at its end. -/
def dropEndWhile (p : Char → Bool) (text : List Char) : List Char :=
  (text.reverse.dropWhile p).reverse

/-- The text without such characters at either end. -/
def trimWhile (p : Char → Bool) (text : List Char) : List Char :=
  dropEndWhile p (text.dropWhile p)

def trimStart (text : List Char) : List Char := text.dropWhile isBlank

def trimEnd (text : List Char) : List Char := dropEndWhile isBlank text

def trim (text : List Char) : List Char := trimWhile isBlank text

/-- The string without blanks at either end. -/
def trimmed (text : String) : String := String.ofList (trim text.toList)

/-- Equal but for the case of ASCII letters. -/
def sameIgnoringCase (a b : List Char) : Bool := a.map Char.toLower == b.map Char.toLower

@[simp] theorem dropEndWhile_nil (p : Char → Bool) : dropEndWhile p [] = [] := rfl

theorem dropEndWhile_append_of_pos {p : Char → Bool} {c : Char} (text : List Char)
    (h : p c = true) : dropEndWhile p (text ++ [c]) = dropEndWhile p text := by
  simp [dropEndWhile, h]

theorem dropEndWhile_append_of_neg {p : Char → Bool} {c : Char} (text : List Char)
    (h : p c = false) : dropEndWhile p (text ++ [c]) = text ++ [c] := by
  simp [dropEndWhile, h]

end DesignGraph.Text
