import ProfileShell.Text.Case.Tables

/-!
Letter case over the whole of Unicode: the properties Uppercase and Lowercase, and the small form
of a character.
-/

set_option autoImplicit false
set_option relaxedAutoImplicit false

namespace ProfileShell.Text

/-- The character has the Unicode property Uppercase. -/
def isCapital (c : Char) : Bool :=
  Case.capitals.any fun s => s.holds c.toNat

/-- The character has the Unicode property Lowercase. -/
def isSmall (c : Char) : Bool :=
  Case.smalls.any fun s => s.holds c.toNat

/-- The small form of a character taken on its own. Only the capital I with a dot has a small form
of two characters: the small i and a combining dot. -/
def smallForm (c : Char) : List Char :=
  if c.toNat = 0x130 then [Char.ofNat 0x69, Char.ofNat 0x307]
  else
    match Case.smallForms.find? fun entry => entry.1.holds c.toNat with
    | some (s, small) => [Char.ofNat (small + (c.toNat - s.first))]
    | none => [c]

end ProfileShell.Text
