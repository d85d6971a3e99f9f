/-!
# Quoting in DOT

A quoted name is read up to the next quote that no backslash escapes. A record label is
read in the same way, and then split into fields at its bars; so inside a field the bar
and the other marks of record labels are escaped too.
-/

namespace DesignGraph.Dot

def quoteChar (c : Char) : List Char :=
  if c = '"' ∨ c = '\\' then ['\\', c] else if c = '\n' then ['\\', 'n'] else [c]

/-- A name or an attribute value between quotes. -/
def quote (text : List Char) : List Char := '"' :: text.flatMap quoteChar ++ ['"']

/-- The characters with a meaning inside a record label. -/
def isRecordMark (c : Char) : Bool :=
  c == '\x7b' || c == '\x7d' || c == '|' || c == '<' || c == '>' || c == '"' || c == '\\'

/-- One character of a field of a record label. -/
def escapeRecordChar (c : Char) : List Char := if isRecordMark c then ['\\', c] else [c]

def escapeRecord (text : List Char) : List Char := text.flatMap escapeRecordChar

/-- A record shows at most this many fields. -/
def shownFields : Nat := 10

/-- The label of an entity: its name and its first fields, between bars. -/
def recordLabel (entity : String) (fields : List String) : List Char :=
  let cells := (fields.take shownFields).map fun field => escapeRecord field.toList
  '\x7b' :: escapeRecord entity.toList ++ '|' :: ['|'].intercalate cells ++ ['\x7d']

end DesignGraph.Dot
