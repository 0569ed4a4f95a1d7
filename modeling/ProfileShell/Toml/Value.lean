import ProfileShell.Toml.Node

/-!
Values of TOML, read from the front of a list of characters.

Arrays may spread over lines, with comments, and may end in a comma; tables between braces may do
neither. Both may be nested to a limit.
-/

set_option autoImplicit false
set_option relaxedAutoImplicit false

namespace ProfileShell.Toml

abbrev Reader (α : Type) : Type :=
  List Char → Option (α × List Char)

/-- What follows blanks, line breaks and comments; a comment holds no controls but tabs. -/
def dropLines (commented : Bool) : List Char → Option (List Char)
  | [] => some []
  | '\n' :: cs => dropLines false cs
  | '\r' :: '\n' :: cs => dropLines false cs
  | c :: cs =>
    if commented then (if isInline c then dropLines true cs else none)
    else if c == '#' then dropLines true cs
    else if isBlank c then dropLines false cs
    else some (c :: cs)

def items? (item : Reader Node) : Nat → Reader (List Node)
  | 0, _ => none
  | bound + 1, cs =>
    match dropLines false cs with
    | none => none
    | some (']' :: rest) => some ([], rest)
    | some cs =>
      match item cs with
      | none => none
      | some (node, rest) =>
        match dropLines false rest with
        | some (',' :: rest) =>
          (items? item bound rest).map fun (nodes, rest) => (node :: nodes, rest)
        | some (']' :: rest) => some ([node], rest)
        | _ => none

/-- A field: a key, an equals sign and a value, each with blanks around it. -/
def field? (item : Reader Node) (cs : List Char) : Option ((Key × Node) × List Char) :=
  match key? cs with
  | some (key, '=' :: rest) =>
    (item (dropBlanks rest)).map fun (node, rest) => ((key, node), dropBlanks rest)
  | _ => none

/-- The fields between braces after the opening one, of which there is at least one. -/
def fields? (item : Reader Node) : Nat → Reader (List (Key × Node))
  | 0, _ => none
  | bound + 1, cs =>
    match field? item cs with
    | some (field, ',' :: rest) =>
      (fields? item bound rest).map fun (fields, rest) => (field :: fields, rest)
    | some (field, '\x7d' :: rest) => some ([field], rest)
    | _ => none

/-- A table of fields in the order of their arrival. -/
def Fields.ofList? (fields : List (Key × Node)) : Option Fields :=
  fields.foldlM (fun done field => Fields.insert field.2 field.1.name field.1.parents done) []

def inlineTable? (item : Reader Node) (cs : List Char) : Option (Node × List Char) :=
  match dropBlanks cs with
  | '\x7d' :: rest => some (.table .inline [], rest)
  | cs =>
    match fields? item cs.length cs with
    | some (fields, rest) =>
      (Fields.ofList? fields).map fun table => (.table .inline table, rest)
    | none => none

def scalarNode? (cs : List Char) : Option (Node × List Char) :=
  match cs with
  | 't' :: 'r' :: 'u' :: 'e' :: rest => some (.boolean true, rest)
  | 'f' :: 'a' :: 'l' :: 's' :: 'e' :: rest => some (.boolean false, rest)
  | cs =>
    match text? cs with
    | some (s, rest) => some (.text s, rest)
    | none =>
      match moment? cs with
      | some (m, rest) => some (.moment m, rest)
      | none => (number? cs).map fun (n, rest) => (.number n, rest)

/-- The number of containers that may enclose one another. -/
def maxDepth : Nat := 79

/-- A value that holds at most some levels of containers, and what follows it. -/
def valueWithin? : Nat → Reader Node
  | depth, '[' :: cs =>
    match depth with
    | 0 => none
    | depth + 1 =>
      (items? (valueWithin? depth) (cs.length + 1) cs).map fun (nodes, rest) =>
        (.array nodes, rest)
  | depth, '\x7b' :: cs =>
    match depth with
    | 0 => none
    | depth + 1 => inlineTable? (valueWithin? depth) cs
  | _, cs => scalarNode? cs

def value? : Reader Node :=
  valueWithin? maxDepth

end ProfileShell.Toml
