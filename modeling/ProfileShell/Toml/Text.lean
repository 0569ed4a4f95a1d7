import ProfileShell.Text.Hexadecimal

/-!
The four forms of text in TOML, read from the front of a list of characters.

A text is read in two steps: its body is cut off at the closing quotes, and the body is then
decoded. Basic forms have escapes; multi-line forms may hold line breaks, drop the one that
follows the opening quotes, and may end in one or two quotes of their own kind.
-/

set_option autoImplicit false
set_option relaxedAutoImplicit false

namespace ProfileShell.Toml

def isBlank (c : Char) : Bool :=
  c == ' ' || c == '\t'

def dropBlanks (cs : List Char) : List Char :=
  cs.dropWhile isBlank

/-- The characters that a line may hold: no controls but the tab. -/
def isInline (c : Char) : Bool :=
  c == '\t' || (0x20 ≤ c.toNat && c.toNat != 0x7F)

/-- The characters that a text of several lines may hold. -/
def isMultiline (c : Char) : Bool :=
  c == '\n' || isInline c

/-- The body of a text up to its closing quote, and what follows the quote. Where there are escapes,
a backslash keeps the character after it from closing the text. -/
def upToQuote (quote : Char) (escapes : Bool) : List Char → Option (List Char × List Char)
  | [] => none
  | c :: cs =>
    if c = quote then some ([], cs)
    else if escapes && c == '\\' then
      match cs with
      | [] => none
      | e :: rest =>
        (upToQuote quote escapes rest).map fun (body, after) => (c :: e :: body, after)
    else (upToQuote quote escapes cs).map fun (body, after) => (c :: body, after)

/-- The body of a text up to its three closing quotes, and what follows them. Of more quotes in a
row up to two belong to the body. -/
def upToQuotes (quote : Char) (escapes : Bool) : List Char → Option (List Char × List Char)
  | [] => none
  | c :: cs =>
    if c = quote && cs.take 2 = [quote, quote] then
      let more := ((cs.drop 2).take 2).takeWhile (· = quote)
      some (more, cs.drop (2 + more.length))
    else if escapes && c == '\\' then
      match cs with
      | [] => none
      | e :: rest =>
        (upToQuotes quote escapes rest).map fun (body, after) => (c :: e :: body, after)
    else (upToQuotes quote escapes cs).map fun (body, after) => (c :: body, after)

/-- Write every line break as a line feed. -/
def unifyBreaks : List Char → List Char
  | [] => []
  | '\r' :: '\n' :: cs => '\n' :: unifyBreaks cs
  | c :: cs => c :: unifyBreaks cs

def dropBreak : List Char → List Char
  | '\n' :: cs => cs
  | cs => cs

def endsLine (cs : List Char) : Bool :=
  (dropBlanks cs).head? == some '\n'

def escaped? : Char → Option Char
  | 'b' => some '\x08'
  | 't' => some '\t'
  | 'n' => some '\n'
  | 'f' => some '\x0c'
  | 'r' => some '\r'
  | '"' => some '"'
  | '\\' => some '\\'
  | _ => none

/-- The character with a code point in hexadecimal digits; surrogates are no characters. -/
def scalar? (digits : List Char) : Option Char :=
  match Text.hexNumber? digits with
  | some n => if n < 0xD800 || (0xDFFF < n && n < 0x110000) then some (Char.ofNat n) else none
  | none => none

/-- The text that a body with escapes stands for. A backslash at the end of a line joins several
lines: it is taken out with the blanks and line breaks after it, which `joining` tells to skip. -/
def unescape (multiline joining : Bool) : List Char → Option (List Char)
  | [] => some []
  | c :: cs =>
    if joining && (isBlank c || c == '\n') then unescape multiline true cs
    else if c = '\\' then
      if multiline && endsLine cs then unescape multiline true cs
      else
        match cs with
        | 'u' :: d :: e :: f :: g :: rest =>
          match scalar? [d, e, f, g], unescape multiline false rest with
          | some s, some text => some (s :: text)
          | _, _ => none
        | 'U' :: d :: e :: f :: g :: h :: i :: j :: k :: rest =>
          match scalar? [d, e, f, g, h, i, j, k], unescape multiline false rest with
          | some s, some text => some (s :: text)
          | _, _ => none
        | e :: rest =>
          match escaped? e, unescape multiline false rest with
          | some s, some text => some (s :: text)
          | _, _ => none
        | [] => none
    else if if multiline then isMultiline c else isInline c then
      (unescape multiline false cs).map (c :: ·)
    else none

def literal (allowed : Char → Bool) (body : List Char) : Option (List Char) :=
  if body.all allowed then some body else none

def decodeBody (decode : List Char → Option (List Char)) (cut : Option (List Char × List Char)) :
    Option (String × List Char) :=
  match cut with
  | some (body, after) => (decode body).map fun text => (String.ofList text, after)
  | none => none

def basic? (cs : List Char) : Option (String × List Char) :=
  decodeBody (unescape false false) (upToQuote '"' true cs)

def literal? (cs : List Char) : Option (String × List Char) :=
  decodeBody (literal isInline) (upToQuote '\'' false cs)

def multilineBasic? (cs : List Char) : Option (String × List Char) :=
  decodeBody (fun body => unescape true false (dropBreak (unifyBreaks body)))
    (upToQuotes '"' true cs)

def multilineLiteral? (cs : List Char) : Option (String × List Char) :=
  decodeBody (fun body => literal isMultiline (dropBreak (unifyBreaks body)))
    (upToQuotes '\'' false cs)

/-- A text in one of the four forms, and what follows it. -/
def text? : List Char → Option (String × List Char)
  | '"' :: '"' :: '"' :: cs => multilineBasic? cs
  | '"' :: cs => basic? cs
  | '\'' :: '\'' :: '\'' :: cs => multilineLiteral? cs
  | '\'' :: cs => literal? cs
  | _ => none

end ProfileShell.Toml
