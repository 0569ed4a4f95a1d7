import ProfileShell.Toml.Text

/-!
Keys of TOML: bare or quoted names, joined by points into the way to a table's field.
-/

set_option autoImplicit false
set_option relaxedAutoImplicit false

namespace ProfileShell.Toml

/-- The way to a field: the tables on it, and the field's own name. -/
structure Key where
  parents : List String
  name : String
  deriving DecidableEq

def Key.path (k : Key) : List String :=
  k.parents ++ [k.name]

def isBare (c : Char) : Bool :=
  c.isAlphanum || c == '_' || c == '-'

def name? : List Char → Option (String × List Char)
  | '"' :: cs => basic? cs
  | '\'' :: cs => literal? cs
  | cs =>
    let bare := cs.takeWhile isBare
    if bare.isEmpty then none else some (String.ofList bare, cs.dropWhile isBare)

/-- The number of names that a key may join. -/
def maxNames : Nat := 79

/-- A key of at most some number of names, with blanks around each, and what follows it. -/
def keyWithin? : Nat → List Char → Option (Key × List Char)
  | 0, _ => none
  | bound + 1, cs =>
    match name? (dropBlanks cs) with
    | none => none
    | some (name, rest) =>
      match dropBlanks rest with
      | '.' :: rest =>
        (keyWithin? bound rest).map fun (key, rest) =>
          ({ key with parents := name :: key.parents }, rest)
      | rest => some (⟨[], name⟩, rest)

def key? (cs : List Char) : Option (Key × List Char) :=
  keyWithin? maxNames cs

end ProfileShell.Toml
