import ProfileShell.Toml.Key
import ProfileShell.Toml.Moment
import ProfileShell.Toml.Number

/-!
The tree that a TOML document describes.

Every table remembers how it came to be, because that decides what may still be added to it: a
table between braces is closed, dotted keys reach only tables that dotted keys or the way to some
header made, and a header may open only a table that was implied so far.
-/

set_option autoImplicit false
set_option relaxedAutoImplicit false

namespace ProfileShell.Toml

/-- How a table came to be. -/
inductive Origin
  /-- By a header of its own. -/
  | header
  /-- On the way to the table of a header. -/
  | implied
  /-- On the way to a field with a dotted key. -/
  | dotted
  /-- Between braces. -/
  | inline
  deriving DecidableEq

inductive Node
  | text (s : String)
  | number (n : Number)
  | boolean (b : Bool)
  | moment (m : Moment)
  | array (items : List Node)
  | table (origin : Origin) (fields : List (String × Node))
  /-- Tables of one header, of which the latest is still open. -/
  | tables (latest : List (String × Node)) (earlier : List (List (String × Node)))
  deriving Inhabited

abbrev Fields : Type :=
  List (String × Node)

def Fields.set (name : String) (node : Node) : Fields → Fields
  | [] => [(name, node)]
  | field :: rest =>
    if field.1 = name then (name, node) :: rest else field :: Fields.set name node rest

def Fields.insert (value : Node) (name : String) : List String → Fields → Option Fields
  | [], fields =>
    match fields.lookup name with
    | none => some (Fields.set name value fields)
    | some _ => none
  | parent :: parents, fields =>
    match fields.lookup parent with
    | none =>
      (Fields.insert value name parents []).map fun inner =>
        Fields.set parent (.table .dotted inner) fields
    | some (.table .dotted inner) =>
      (Fields.insert value name parents inner).map fun inner =>
        Fields.set parent (.table .dotted inner) fields
    | some (.table .implied inner) =>
      if parents.isEmpty then none
      else
        (Fields.insert value name parents inner).map fun inner =>
          Fields.set parent (.table .implied inner) fields
    | some (.tables latest earlier) =>
      if parents.isEmpty then none
      else
        (Fields.insert value name parents latest).map fun latest =>
          Fields.set parent (.tables latest earlier) fields
    | some _ => none

/-- Change the table that a path of headers leads to. Tables that are missing on the way are
implied. -/
def Fields.within (change : Fields → Option Fields) : List String → Fields → Option Fields
  | [], fields => change fields
  | name :: path, fields =>
    match fields.lookup name with
    | none =>
      (Fields.within change path []).map fun inner =>
        Fields.set name (.table .implied inner) fields
    | some (.table .inline _) => none
    | some (.table origin inner) =>
      (Fields.within change path inner).map fun inner =>
        Fields.set name (.table origin inner) fields
    | some (.tables latest earlier) =>
      (Fields.within change path latest).map fun latest =>
        Fields.set name (.tables latest earlier) fields
    | some _ => none

def Fields.openTable (name : String) (fields : Fields) : Option Fields :=
  match fields.lookup name with
  | none => some (Fields.set name (.table .header []) fields)
  | some (.table .implied inner) => some (Fields.set name (.table .header inner) fields)
  | some _ => none

/-- Open one more table of a header that may come several times. -/
def Fields.openNext (name : String) (fields : Fields) : Option Fields :=
  match fields.lookup name with
  | none => some (Fields.set name (.tables [] []) fields)
  | some (.tables latest earlier) =>
    some (Fields.set name (.tables [] (latest :: earlier)) fields)
  | some _ => none

end ProfileShell.Toml
