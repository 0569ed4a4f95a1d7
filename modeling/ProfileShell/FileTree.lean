/-!
A tree of folders and files.

An entry is found by the names on the way to it from the root of the tree.
-/

set_option autoImplicit false
set_option relaxedAutoImplicit false

namespace ProfileShell

/-- A file, or a folder with its entries by name. -/
inductive FileTree
  | file (content : ByteArray)
  | folder (entries : List (String × FileTree))

abbrev Place : Type :=
  List String

namespace FileTree

def empty : FileTree := .folder []

def isFolder : FileTree → Bool
  | .folder _ => true
  | .file _ => false

def get? : FileTree → Place → Option FileTree
  | t, [] => some t
  | .file _, _ :: _ => none
  | .folder entries, name :: place =>
    match entries.lookup name with
    | some t => t.get? place
    | none => none

def putEntry (name : String) (t : FileTree) : List (String × FileTree) → List (String × FileTree)
  | [] => [(name, t)]
  | e :: rest => if e.1 = name then (name, t) :: rest else e :: putEntry name t rest

/-- The tree with an entry at a place, in folders that are made if need be. Below a file nothing can
be put. -/
def put : FileTree → Place → FileTree → FileTree
  | _, [], new => new
  | .file content, _ :: _, _ => .file content
  | .folder entries, name :: place, new =>
    .folder (putEntry name (((entries.lookup name).getD empty).put place new) entries)

def erase : FileTree → Place → FileTree
  | t, [] => t
  | .file content, _ :: _ => .file content
  | .folder entries, [name] => .folder (entries.filter fun e => e.1 != name)
  | .folder entries, name :: place =>
    match entries.lookup name with
    | some t => .folder (putEntry name (t.erase place) entries)
    | none => .folder entries

def fileNames : FileTree → List String
  | .file _ => []
  | .folder entries => entries.filterMap fun e => if e.2.isFolder then none else some e.1

mutual

/-- The entries inside an entry with their places; what is inside a folder follows the folder. -/
def contents : FileTree → List (Place × FileTree)
  | .file _ => []
  | .folder entries => contentsOfAll entries

def contentsOfAll : List (String × FileTree) → List (Place × FileTree)
  | [] => []
  | e :: rest => contentsOf e ++ contentsOfAll rest

def contentsOf : String × FileTree → List (Place × FileTree)
  | (name, t) => ([name], t) :: t.contents.map fun e => (name :: e.1, e.2)

end

end FileTree

end ProfileShell
