import ProfileShell.Toml.Text

/-!
The written form of a text in TOML.

Of the four forms the first is taken that shows the text as it is, without escapes other than that
of a tab: the basic one, the literal one, the multi-line basic one and the multi-line literal one.
Where none does, a text is escaped, on several lines if it has line breaks.
-/

set_option autoImplicit false
set_option relaxedAutoImplicit false

namespace ProfileShell.Toml

inductive TextForm
  | basic
  | literal
  | multilineBasic
  | multilineLiteral
  deriving DecidableEq

/-- The greatest number of times in a row that a character stands in a list, where it stood `run`
times before it. -/
def longestRun (c : Char) (run : Nat) : List Char → Nat
  | [] => run
  | d :: cs => if d = c then longestRun c (run + 1) cs else max run (longestRun c 0 cs)

def isControl (c : Char) : Bool :=
  !isMultiline c

/-- A form shows a text as it is, a tab apart. -/
def TextForm.shows (cs : List Char) : TextForm → Bool
  | .basic => cs.all fun c => isInline c && c != '"' && c != '\\'
  | .literal => cs.all fun c => isInline c && c != '\''
  | .multilineBasic =>
    (cs.all fun c => isMultiline c && c != '\\') && longestRun '"' 0 cs ≤ 2
  | .multilineLiteral => cs.all isMultiline && longestRun '\'' 0 cs ≤ 2

/-- The form in which a text is written. -/
def TextForm.of (cs : List Char) : TextForm :=
  match [basic, literal, multilineBasic, multilineLiteral].find? (shows cs) with
  | some form => form
  | none => if cs.contains '\n' then .multilineBasic else .basic

def hexCapital (n : Nat) : Char :=
  (Nat.digitChar n).toUpper

/-- A character other than a quote inside a basic text. -/
def escapedChar (multiline : Bool) : Char → List Char
  | '\x08' => ['\\', 'b']
  | '\t' => ['\\', 't']
  | '\n' => if multiline then ['\n'] else ['\\', 'n']
  | '\x0c' => ['\\', 'f']
  | '\r' => ['\\', 'r']
  | '\\' => ['\\', '\\']
  | c =>
    if isControl c then
      ['\\', 'u', '0', '0', hexCapital (c.toNat / 16), hexCapital (c.toNat % 16)]
    else [c]

/-- The body of a basic text, where `quotes` quotes stand just before it. Several lines hold up to
two quotes in a row; any other quote is escaped. -/
def escaped (multiline : Bool) (quotes : Nat) : List Char → List Char
  | [] => []
  | c :: cs =>
    if c = '"' then
      if multiline && quotes < 2 then c :: escaped multiline (quotes + 1) cs
      else '\\' :: c :: escaped multiline 0 cs
    else escapedChar multiline c ++ escaped multiline 0 cs

/-- The line break after the opening quotes of a text that has line breaks. -/
def leadingBreak (cs : List Char) : List Char :=
  if cs.contains '\n' then ['\n'] else []

def TextForm.write (cs : List Char) : TextForm → List Char
  | .basic => '"' :: escaped false 0 cs ++ ['"']
  | .literal => '\'' :: cs ++ ['\'']
  | .multilineBasic =>
    ['"', '"', '"'] ++ leadingBreak cs ++ escaped true 0 cs ++ ['"', '"', '"']
  | .multilineLiteral => ['\'', '\'', '\''] ++ leadingBreak cs ++ cs ++ ['\'', '\'', '\'']

def writeText (s : String) : List Char :=
  TextForm.write s.toList (.of s.toList)

end ProfileShell.Toml
