import ProfileShell.Json.Numeral
import ProfileShell.Text.Hexadecimal

/-!
The tokens of JSON text.

A text token holds nothing when its escapes name half a surrogate pair; such a text can be skipped
but not used. A number token keeps the number as it is written, so that rounding and range are
decided where the number is used.
-/

set_option autoImplicit false
set_option relaxedAutoImplicit false

namespace ProfileShell.Json

inductive Token
  | openArray
  | closeArray
  | openObject
  | closeObject
  | colon
  | comma
  | null
  | bool (b : Bool)
  | numeral (n : Numeral)
  | text (s : Option String)
  deriving DecidableEq

/-- A part of a text token: a character, or half of a surrogate pair. -/
inductive Piece
  | char (c : Char)
  | half (n : Nat)
  deriving DecidableEq

def isBlank (c : Char) : Bool :=
  c == ' ' || c == '\t' || c == '\n' || c == '\r'

def Piece.ofUnit (n : Nat) : Piece :=
  if 0xD800 ≤ n && n < 0xE000 then .half n else .char (Char.ofNat n)

def escaped? : Char → Option Char
  | '"' => some '"'
  | '\\' => some '\\'
  | '/' => some '/'
  | 'b' => some '\x08'
  | 'f' => some '\x0c'
  | 'n' => some '\n'
  | 'r' => some '\r'
  | 't' => some '\t'
  | _ => none

/-- The pieces of a text up to its closing quote, and what follows the quote. -/
def textBody : List Char → Option (List Piece × List Char)
  | [] => none
  | '"' :: cs => some ([], cs)
  | '\\' :: 'u' :: a :: b :: c :: d :: cs =>
    match Text.hexNumber? [a, b, c, d], textBody cs with
    | some n, some (pieces, rest) => some (.ofUnit n :: pieces, rest)
    | _, _ => none
  | '\\' :: c :: cs =>
    match escaped? c, textBody cs with
    | some e, some (pieces, rest) => some (.char e :: pieces, rest)
    | _, _ => none
  | c :: cs =>
    if c.toNat < 0x20 || c == '\\' then none
    else
      match textBody cs with
      | some (pieces, rest) => some (.char c :: pieces, rest)
      | none => none

/-- The characters of a text, if every half of a surrogate pair meets its other half. -/
def joinPieces : List Piece → Option (List Char)
  | [] => some []
  | .char c :: pieces => (joinPieces pieces).map (c :: ·)
  | .half high :: .half low :: pieces =>
    if high < 0xDC00 && 0xDC00 ≤ low then
      (joinPieces pieces).map
        (Char.ofNat (0x10000 + (high - 0xD800) * 0x400 + (low - 0xDC00)) :: ·)
    else none
  | .half _ :: _ => none

/-- The token at the front of a text that starts with no blank, and what follows it. -/
def token? : List Char → Option (Token × List Char)
  | '[' :: cs => some (.openArray, cs)
  | ']' :: cs => some (.closeArray, cs)
  | '\x7b' :: cs => some (.openObject, cs)
  | '\x7d' :: cs => some (.closeObject, cs)
  | ':' :: cs => some (.colon, cs)
  | ',' :: cs => some (.comma, cs)
  | 'n' :: 'u' :: 'l' :: 'l' :: cs => some (.null, cs)
  | 't' :: 'r' :: 'u' :: 'e' :: cs => some (.bool true, cs)
  | 'f' :: 'a' :: 'l' :: 's' :: 'e' :: cs => some (.bool false, cs)
  | '"' :: cs =>
    (textBody cs).map fun (pieces, rest) => (.text ((joinPieces pieces).map String.ofList), rest)
  | '-' :: cs => (numeral? true cs).map fun (n, rest) => (.numeral n, rest)
  | cs => (numeral? false cs).map fun (n, rest) => (.numeral n, rest)

/-- The tokens of a text, by recursion on a bound for their number. -/
def tokensWithin : Nat → List Char → Option (List Token)
  | 0, cs => if (cs.dropWhile isBlank).isEmpty then some [] else none
  | bound + 1, cs =>
    match cs.dropWhile isBlank with
    | [] => some []
    | c :: cs =>
      match token? (c :: cs) with
      | some (token, rest) => (tokensWithin bound rest).map (token :: ·)
      | none => none

/-- The tokens of a text, each of which takes at least one character. -/
def tokens? (cs : List Char) : Option (List Token) :=
  tokensWithin cs.length cs

end ProfileShell.Json
