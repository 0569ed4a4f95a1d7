import ProfileShell.Text.Blank

/-!
A line of input split into words.

Blanks separate words. A backslash takes the next character as it is, inside quotes and out;
single and double quotes group characters, and a pair of quotes alone is an empty word. A quote
that is never closed reaches to the end of the line, where a lone backslash is dropped.
-/

set_option autoImplicit false
set_option relaxedAutoImplicit false

namespace ProfileShell.Command

/-- The words of a line. `word` holds the characters of the word being read, the last first, and
is absent between words; `quote` is the quote that is open. -/
def wordsFrom (word : Option (List Char)) (quote : Option Char) : List Char → List (List Char)
  | [] => (word.map List.reverse).toList
  | '\\' :: [] => (word.map List.reverse).toList
  | '\\' :: c :: cs => wordsFrom (some (c :: word.getD [])) quote cs
  | c :: cs =>
    match quote with
    | some q =>
      if c = q then wordsFrom (some (word.getD [])) none cs
      else wordsFrom (some (c :: word.getD [])) quote cs
    | none =>
      if c = '\'' || c = '"' then wordsFrom (some (word.getD [])) (some c) cs
      else if Text.isBlank c then
        match word with
        | some w => w.reverse :: wordsFrom none none cs
        | none => wordsFrom none none cs
      else wordsFrom (some (c :: word.getD [])) none cs

def words (line : String) : List String :=
  (wordsFrom none none line.toList).map String.ofList

/-- A line as a command word, empty if there is none, and the words after it. -/
structure Line where
  command : String
  arguments : List String
  deriving DecidableEq

def Line.ofText (text : String) : Line :=
  match words text with
  | [] => ⟨"", []⟩
  | command :: arguments => ⟨command, arguments⟩

def Line.isEmpty (line : Line) : Bool :=
  line.command.isEmpty && line.arguments.isEmpty

end ProfileShell.Command
