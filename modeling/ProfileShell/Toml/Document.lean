import ProfileShell.Toml.Value

/-!
TOML documents: the lines of a document, and the table that they describe together.
-/

set_option autoImplicit false
set_option relaxedAutoImplicit false

namespace ProfileShell.Toml

inductive Line
  /-- A field of the table at hand. -/
  | field (key : Key) (value : Node)
  | table (key : Key)
  | nextTable (key : Key)

/-- What follows the end of a line: blanks, a comment and a line break, if input goes on. -/
def lineEnd? (commented : Bool) : List Char → Option (List Char)
  | [] => some []
  | '\n' :: cs => some cs
  | '\r' :: '\n' :: cs => some cs
  | c :: cs =>
    if commented then (if isInline c then lineEnd? true cs else none)
    else if c == '#' then lineEnd? true cs
    else if isBlank c then lineEnd? false cs
    else none

/-- A line without its end, and what follows it. -/
def lineBody? : List Char → Option (Line × List Char)
  | '[' :: '[' :: cs =>
    match key? cs with
    | some (key, ']' :: ']' :: rest) => some (.nextTable key, rest)
    | _ => none
  | '[' :: cs =>
    match key? cs with
    | some (key, ']' :: rest) => some (.table key, rest)
    | _ => none
  | cs => (field? value? cs).map fun (field, rest) => (.field field.1 field.2, rest)

def line? (cs : List Char) : Option (Line × List Char) :=
  match lineBody? cs with
  | some (line, rest) => (lineEnd? false rest).map fun rest => (line, rest)
  | none => none

def linesWithin? : Nat → List Char → Option (List Line)
  | bound, cs =>
    match dropLines false cs with
    | none => none
    | some [] => some []
    | some (c :: cs) =>
      match bound with
      | 0 => none
      | bound + 1 =>
        match line? (c :: cs) with
        | some (line, rest) => (linesWithin? bound rest).map (line :: ·)
        | none => none

/-- The lines of a document, each of which takes at least one character. A mark of the byte order
may come first. -/
def lines? : List Char → Option (List Line)
  | '\ufeff' :: cs => linesWithin? cs.length cs
  | cs => linesWithin? cs.length cs

/-- What lines described so far, and the path of the table that fields are added to. -/
structure Draft where
  root : Fields
  place : List String

def Draft.add (d : Draft) : Line → Option Draft
  | .field key value =>
    (Fields.within (Fields.insert value key.name key.parents) d.place d.root).map fun root =>
      { d with root }
  | .table key =>
    (Fields.within (Fields.openTable key.name) key.parents d.root).map fun root =>
      ⟨root, key.path⟩
  | .nextTable key =>
    (Fields.within (Fields.openNext key.name) key.parents d.root).map fun root =>
      ⟨root, key.path⟩

def Fields.ofLines? (lines : List Line) : Option Fields :=
  (lines.foldlM Draft.add ⟨[], []⟩).map Draft.root

def parse? (s : String) : Option Fields :=
  (lines? s.toList).bind Fields.ofLines?

end ProfileShell.Toml
