/-!
The lines of a text: each ends at a line feed, a carriage return just before the feed belongs to
the ending, and a last line without a feed counts as well.
-/

set_option autoImplicit false
set_option relaxedAutoImplicit false

namespace ProfileShell.Text

/-- The lines of a list of characters, without their endings. -/
def lineChars : List Char → List (List Char)
  | [] => []
  | '\n' :: cs => [] :: lineChars cs
  | '\r' :: '\n' :: cs => [] :: lineChars cs
  | c :: cs =>
    match lineChars cs with
    | [] => [[c]]
    | line :: rest => (c :: line) :: rest

def lines (s : String) : List String :=
  (lineChars s.toList).map String.ofList

end ProfileShell.Text
