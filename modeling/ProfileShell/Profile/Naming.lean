import ProfileShell.Text.Case

/-!
Identifiers derived from names: snake case.

Spaces and hyphens become underscores, and an underscore is put before a capital that starts a new
word: one after a small letter or a digit, or one before a small letter. A run of capitals stays
together up to the last one before a small letter.
-/

set_option autoImplicit false
set_option relaxedAutoImplicit false

namespace ProfileShell.Profile

/-- The character that stands for a separator in an identifier. -/
def joinSeparator (c : Char) : Char :=
  if c = ' ' || c = '-' then '_' else c

/-- A capital starts a new word between its neighbours. -/
def startsWord (previous : Option Char) (c : Char) (next : Option Char) : Bool :=
  match previous with
  | none => false
  | some p =>
    Text.isCapital c && p != '_' &&
      (Text.isSmall p || p.isDigit || next.any Text.isSmall)

/-- The identifier of characters whose separators are joined, after the character `previous`. -/
def snakeFrom (previous : Option Char) : List Char → List Char
  | [] => []
  | c :: cs =>
    (if startsWord previous c cs.head? then ['_'] else []) ++ Text.smallForm c ++
      snakeFrom (some c) cs

def snakeCase (name : String) : String :=
  String.ofList (snakeFrom none (name.toList.map joinSeparator))

end ProfileShell.Profile
