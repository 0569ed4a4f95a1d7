import ProfileShell.FileTree
import ProfileShell.Failure
import ProfileShell.Path

/-!
A tree of files that is used through paths, as systems do.

A path is walked name by name: every name but the last must lead to a folder, a lone dot stays, and
two dots go up. A path is refused before it is walked if it holds a NUL, is empty or is too long.
-/

set_option autoImplicit false
set_option relaxedAutoImplicit false

namespace ProfileShell

/-- A tree of files and the folder in it that relative paths start from. -/
structure FileSystem where
  root : FileTree
  current : Place

/-- Where a walk stands. -/
structure Spot where
  /-- The names on the way from the root and the folders that they were looked up in, the nearest
  first. -/
  way : List (String × FileTree)
  /-- What is there, if anything is. -/
  entry : Option FileTree

namespace Spot

def root (t : FileTree) : Spot := ⟨[], some t⟩

def place (s : Spot) : Place :=
  (s.way.map Prod.fst).reverse

/-- The longest name that a folder can hold, in bytes. -/
def maxNameSize : Nat := 255

/-- The spot above a spot; the root is above itself. -/
def up (s : Spot) : Spot :=
  match s.way with
  | [] => s
  | (_, folder) :: way => ⟨way, some folder⟩

def step (s : Spot) (name : String) : Except SystemFault Spot :=
  match s.entry with
  | none => .error .noSuchEntry
  | some (.file _) => .error .notDirectory
  | some (.folder entries) =>
    if Path.staysPut name then .ok s
    else if name == ".." then .ok s.up
    else if maxNameSize < name.utf8ByteSize then .error .nameTooLong
    else .ok ⟨(name, .folder entries) :: s.way, entries.lookup name⟩

end Spot

namespace FileSystem

def empty : FileSystem := ⟨.empty, []⟩

/-- The longest path, in bytes. -/
def maxPathSize : Nat := 4095

def checkPath (p : Path) : Except SystemFault Unit :=
  if p.names.any fun name => name.toList.contains '\x00' then .error .nulInName
  else if p.text.isEmpty then .error .noSuchEntry
  else if maxPathSize < p.text.utf8ByteSize then .error .nameTooLong
  else .ok ()

def walk (fs : FileSystem) (p : Path) : Except SystemFault Spot :=
  (if p.isAbsolute then p.names else fs.current ++ p.names).foldlM Spot.step (.root fs.root)

def find (fs : FileSystem) (p : Path) : Except SystemFault Spot := do
  checkPath p
  fs.walk p

def entry? (fs : FileSystem) (p : Path) : Option FileTree :=
  match fs.find p with
  | .ok spot => spot.entry
  | .error _ => none

def isFile (fs : FileSystem) (p : Path) : Bool :=
  match fs.entry? p with
  | some (.file _) => true
  | _ => false

def isFolder (fs : FileSystem) (p : Path) : Bool :=
  match fs.entry? p with
  | some (.folder _) => true
  | _ => false

def readText (fs : FileSystem) (p : Path) : Except SystemFault String := do
  match (← fs.find p).entry with
  | some (.file content) =>
    match String.fromUTF8? content with
    | some text => .ok text
    | none => .error .notUtf8
  | some (.folder _) => .error .isDirectory
  | none => .error .noSuchEntry

def listFiles (fs : FileSystem) (p : Path) : Except SystemFault (List String) := do
  match (← fs.find p).entry with
  | some (.folder entries) => .ok (FileTree.folder entries).fileNames
  | some (.file _) => .error .notDirectory
  | none => .error .noSuchEntry

/-- The spot for a file to be written, whose folder must exist. A path that ends in a slash names a
folder, whatever is there. -/
def findForFile (fs : FileSystem) (p : Path) : Except SystemFault Spot := do
  checkPath p
  if p.isSlashed then
    let _ ← fs.walk ⟨p.unslashed.names.dropLast ++ [""]⟩
    .error .isDirectory
  else fs.walk p

/-- Write a file, whose folder must exist. -/
def writeFile (fs : FileSystem) (p : Path) (content : ByteArray) :
    Except SystemFault FileSystem := do
  let spot ← fs.findForFile p
  match spot.entry with
  | some (.folder _) => .error .isDirectory
  | _ => .ok { fs with root := fs.root.put spot.place (.file content) }

def removeFile (fs : FileSystem) (p : Path) : Except SystemFault FileSystem := do
  let spot ← fs.find p
  match spot.entry with
  | some (.file _) => .ok { fs with root := fs.root.erase spot.place }
  | some (.folder _) => .error .isDirectory
  | none => .error .noSuchEntry

/-- Create a folder in a folder that exists. -/
def createFolder (fs : FileSystem) (p : Path) : Except SystemFault FileSystem := do
  checkPath p
  let spot ← fs.walk p.unslashed
  match spot.entry with
  | some _ => .error .entryExists
  | none => .ok { fs with root := fs.root.put spot.place .empty }

/-- A refusal to create a folder matters only if the folder does not exist. -/
def unlessFolder (fs : FileSystem) (p : Path) (fault : SystemFault) :
    FileSystem × Except SystemFault Unit :=
  if fs.isFolder p then (fs, .ok ()) else (fs, .error fault)

/-- Create the first of some folders. If the folder for it is missing, the rest of the list, which
holds the folders above it, is created first. -/
def createUpward (fs : FileSystem) : List Path → FileSystem × Except SystemFault Unit
  | [] => (fs, .ok ())
  | p :: above =>
    match fs.createFolder p with
    | .ok fs => (fs, .ok ())
    | .error .noSuchEntry =>
      match fs.createUpward above with
      | (fs, .ok ()) =>
        match fs.createFolder p with
        | .ok fs => (fs, .ok ())
        | .error fault => fs.unlessFolder p fault
      | failed => failed
    | .error fault => fs.unlessFolder p fault

/-- Create a folder and the folders above it that do not exist yet. What was created before a fault
stays. -/
def createFolders (fs : FileSystem) (p : Path) : FileSystem × Except SystemFault Unit :=
  fs.createUpward p.upward

end FileSystem

end ProfileShell
