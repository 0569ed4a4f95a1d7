import ProfileShell.FileSystem
import ProfileShell.Record.Store

/-!
A store that keeps each record in a file of one folder, named by its identifier and an extension.

The folder is created by the first write; as long as it is missing the store is empty.
-/

set_option autoImplicit false
set_option relaxedAutoImplicit false

namespace ProfileShell

/-- Records in the files of a folder. -/
structure DirectoryStore where
  files : FileSystem
  folder : Path
  extension : String

namespace DirectoryStore

/-- A store over a folder; leading dots of the extension are dropped. -/
def create (files : FileSystem) (folder : Path) (extension : String) : DirectoryStore :=
  ⟨files, folder, String.ofList (extension.toList.dropWhile (· == '.'))⟩

def pathOf (s : DirectoryStore) (id : String) : Path :=
  s.folder.join (.ofText (Record.fileName id s.extension))

def fileNames : Task DirectoryStore (List String) := do
  let s ← get
  match s.files.listFiles s.folder with
  | .ok names => pure names
  | .error .noSuchEntry => pure []
  | .error fault => throw (.system fault)

def recordFault (id : String) : SystemFault → Failure
  | .noSuchEntry => .store (.noSuchRecord id)
  | fault => .system fault

def identifiers : Task DirectoryStore (List String) := do
  let names ← fileNames
  let s ← get
  pure (names.filterMap fun name => Record.stem? name s.extension)

def holds (id : String) : Task DirectoryStore Bool := do
  Task.ofExcept (Record.checkIdentifier id)
  let s ← get
  pure (s.files.isFile (s.pathOf id))

/-- The identifier of a file name that no file has. -/
def freeIdentifier (base : String) : Task DirectoryStore String := do
  let names ← fileNames
  let s ← get
  let name := Record.allocateFileName base names s.extension
  pure ((Record.stem? name s.extension).getD base)

def read (id : String) : Task DirectoryStore String := do
  Task.ofExcept (Record.checkIdentifier id)
  let s ← get
  match s.files.readText (s.pathOf id) with
  | .ok text => pure text
  | .error fault => throw (recordFault id fault)

/-- Write a record's file, in a folder that is created if need be. -/
def write (id text : String) : Task DirectoryStore Unit := do
  Task.ofExcept (Record.checkIdentifier id)
  let s ← get
  let (files, created) := s.files.createFolders s.folder
  set { s with files }
  match created with
  | .error fault => throw (.system fault)
  | .ok () =>
    match files.writeFile (s.pathOf id) text.toUTF8 with
    | .error fault => throw (.system fault)
    | .ok files =>
      set { s with files }
      Task.note .debug ("wrote record " ++ (s.pathOf id).text)

def remove (id : String) : Task DirectoryStore Unit := do
  Task.ofExcept (Record.checkIdentifier id)
  let s ← get
  match s.files.removeFile (s.pathOf id) with
  | .error fault => throw (recordFault id fault)
  | .ok files =>
    set { s with files }
    Task.note .debug ("removed record " ++ (s.pathOf id).text)

instance : RecordStore DirectoryStore where
  identifiers := identifiers
  holds := holds
  freeIdentifier := freeIdentifier
  read := read
  write := write
  remove := remove

end DirectoryStore

end ProfileShell
