/-!
# Lines

A line ends at a line feed, and one carriage return right before that line feed belongs
to the ending. The last line may go without an ending; it then keeps a carriage return.
Nothing after the last line feed is no line.
-/

namespace DesignGraph.Text

/-- The lines of a text, without their endings. -/
def lines : List Char → List (List Char)
  | [] => []
  | '\n' :: rest => [] :: lines rest
  | '\r' :: '\n' :: rest => [] :: lines rest
  | c :: rest =>
    match lines rest with
    | [] => [[c]]
    | line :: more => (c :: line) :: more

end DesignGraph.Text
