/-!
Case folding of the twenty-six ASCII letters; every other character stays as it is.
-/

set_option autoImplicit false
set_option relaxedAutoImplicit false

namespace ProfileShell.Text

def lowerAscii (s : String) : String :=
  String.ofList (s.toList.map Char.toLower)

def sameIgnoringCase (a b : String) : Bool :=
  lowerAscii a == lowerAscii b

theorem toList_lowerAscii (s : String) : (lowerAscii s).toList = s.toList.map Char.toLower := by
  simp [lowerAscii]

end ProfileShell.Text
