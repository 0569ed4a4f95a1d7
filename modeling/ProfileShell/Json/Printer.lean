import ProfileShell.Json.Basic
import ProfileShell.Binary64.Shortest

/-!
JSON text of values: compact, or with one member to a line.
-/

set_option autoImplicit false
set_option relaxedAutoImplicit false

namespace ProfileShell.Json

/-- In JSON a double is positional from 10^-5 up to below 10^16 and always has a point there; of
two equally near digit strings the even one is taken. -/
def doubleLayout : Binary64.Layout :=
  { positional := fun e => -5 ≤ e && e < 16, pointAlways := true, tie := .even }

/-- A double; what is not finite has no number and is written as null. -/
def doubleChars : Binary64 → List Char
  | .finite negative r => Binary64.finiteText doubleLayout negative r
  | _ => "null".toList

def intChars (i : Int) : List Char :=
  if i < 0 then '-' :: Nat.toDigits 10 i.natAbs else Nat.toDigits 10 i.natAbs

def hexChar (n : Nat) : Char :=
  Nat.digitChar n

def charChars : Char → List Char
  | '"' => ['\\', '"']
  | '\\' => ['\\', '\\']
  | '\x08' => ['\\', 'b']
  | '\x0c' => ['\\', 'f']
  | '\n' => ['\\', 'n']
  | '\r' => ['\\', 'r']
  | '\t' => ['\\', 't']
  | c =>
    if c.toNat < 0x20 then
      ['\\', 'u', '0', '0', hexChar (c.toNat / 16), hexChar (c.toNat % 16)]
    else [c]

def textChars (s : String) : List Char :=
  '"' :: s.toList.flatMap charChars ++ ['"']

mutual

def compactChars : Json → List Char
  | .null => "null".toList
  | .bool true => "true".toList
  | .bool false => "false".toList
  | .int i => intChars i
  | .number x => doubleChars x
  | .text s => textChars s
  | .array items => '[' :: compactItems items ++ [']']
  | .object fields => '\x7b' :: compactFields fields ++ ['\x7d']

def compactItems : List Json → List Char
  | [] => []
  | [v] => compactChars v
  | v :: vs => compactChars v ++ ',' :: compactItems vs

def compactFields : List (String × Json) → List Char
  | [] => []
  | [(k, v)] => textChars k ++ ':' :: compactChars v
  | (k, v) :: fs => textChars k ++ ':' :: (compactChars v ++ ',' :: compactFields fs)

end

def newLine (depth : Nat) : List Char :=
  '\n' :: List.replicate (2 * depth) ' '

mutual

/-- A value at some depth, with each member of a container on a line of its own. -/
def prettyChars (depth : Nat) : Json → List Char
  | .array (v :: vs) => '[' :: prettyItems (depth + 1) (v :: vs) ++ newLine depth ++ [']']
  | .object (f :: fs) =>
    '\x7b' :: prettyFields (depth + 1) (f :: fs) ++ newLine depth ++ ['\x7d']
  | .array [] => ['[', ']']
  | .object [] => ['\x7b', '\x7d']
  | .null => "null".toList
  | .bool true => "true".toList
  | .bool false => "false".toList
  | .int i => intChars i
  | .number x => doubleChars x
  | .text s => textChars s

def prettyItems (depth : Nat) : List Json → List Char
  | [] => []
  | [v] => newLine depth ++ prettyChars depth v
  | v :: vs => newLine depth ++ prettyChars depth v ++ ',' :: prettyItems depth vs

def prettyFields (depth : Nat) : List (String × Json) → List Char
  | [] => []
  | [(k, v)] => newLine depth ++ textChars k ++ ':' :: ' ' :: prettyChars depth v
  | (k, v) :: fs =>
    newLine depth ++ textChars k ++ ':' :: ' ' :: (prettyChars depth v ++
      ',' :: prettyFields depth fs)

end

def compact (v : Json) : String :=
  String.ofList (compactChars v)

/-- The JSON text of a value with two blanks of indentation for each level. -/
def pretty (v : Json) : String :=
  String.ofList (prettyChars 0 v)

end ProfileShell.Json
