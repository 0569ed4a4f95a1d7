/-!
Paths as text: names between slashes, which lead from the root if the first name is empty and more
names follow.
-/

set_option autoImplicit false
set_option relaxedAutoImplicit false

namespace ProfileShell

/-- A path by the names between its slashes. -/
structure Path where
  names : List String
  deriving DecidableEq

namespace Path

def splitAt (separator : Char) : List Char → List (List Char)
  | [] => [[]]
  | c :: cs =>
    if c = separator then [] :: splitAt separator cs
    else
      match splitAt separator cs with
      | [] => [[c]]
      | part :: parts => (c :: part) :: parts

def ofText (text : String) : Path :=
  ⟨(splitAt '/' text.toList).map String.ofList⟩

def text (p : Path) : String :=
  "/".intercalate p.names

def isAbsolute (p : Path) : Bool :=
  match p.names with
  | "" :: _ :: _ => true
  | _ => false

def isSlashed (p : Path) : Bool :=
  p.names.getLast? == some ""

/-- The path that leads on from the end of another path, unless it leads from the root. -/
def join (base path : Path) : Path :=
  if path.isAbsolute then path
  else if base.isSlashed then ⟨base.names.dropLast ++ path.names⟩
  else ⟨base.names ++ path.names⟩

/-- The path without the slashes at its end. Slashes alone stay, since they lead to the root. -/
def unslashed (p : Path) : Path :=
  match p.names.reverse.dropWhile String.isEmpty with
  | [] => p
  | names => ⟨names.reverse⟩

/-- An empty name or a lone dot, which lead nowhere. -/
def staysPut (name : String) : Bool :=
  name.isEmpty || name == "."

/-- The paths that end at each name of a list, from the last name up; the list is reversed. Names
that lead nowhere end no path. -/
def endingIn : List String → List Path
  | [] => []
  | name :: rest =>
    if staysPut name then endingIn rest else ⟨(name :: rest).reverse⟩ :: endingIn rest

/-- A path and the paths to the folders above its last name, the longest first. A name that leads
nowhere belongs to the name before it. -/
def upward (p : Path) : List Path :=
  if p.text.isEmpty then []
  else p :: endingIn (p.names.reverse.dropWhile staysPut).tail

end Path

end ProfileShell
