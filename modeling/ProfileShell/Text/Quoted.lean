import ProfileShell.Text.Quoted.Visible

/-!
Text in double quotes for messages.

The quote, the backslash and the common controls have short escapes; any other character that
would not show by itself is written by its code point in hexadecimal.
-/

set_option autoImplicit false
set_option relaxedAutoImplicit false

namespace ProfileShell.Text

/-- The character is shown as it is inside quotes. -/
def Quoted.isShown (c : Char) : Bool :=
  Quoted.shownRanges.any fun r => r.1 ≤ c.toNat && c.toNat ≤ r.2

def Quoted.char : Char → List Char
  | '\x00' => ['\\', '0']
  | '\t' => ['\\', 't']
  | '\n' => ['\\', 'n']
  | '\r' => ['\\', 'r']
  | '"' => ['\\', '"']
  | '\\' => ['\\', '\\']
  | c =>
    if Quoted.isShown c then [c]
    else ['\\', 'u', Char.ofNat 0x7B] ++ Nat.toDigits 16 c.toNat ++ [Char.ofNat 0x7D]

def quoted (s : String) : String :=
  String.ofList ('"' :: s.toList.flatMap Quoted.char ++ ['"'])

end ProfileShell.Text
