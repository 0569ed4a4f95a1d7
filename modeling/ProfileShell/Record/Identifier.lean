import ProfileShell.Failure

/-!
Identifiers of records and the names of the files that hold them.
-/

set_option autoImplicit false
set_option relaxedAutoImplicit false

namespace ProfileShell.Record

/-- The characters that no identifier holds: they separate paths or end file names. -/
def isForbidden (c : Char) : Bool :=
  c == '/' || c == '\\' || c == '\x00'

/-- Why an identifier cannot name a record file. -/
def identifierFault (id : String) : Option StoreFault :=
  match id.toList with
  | [] => some .emptyIdentifier
  | c :: cs =>
    if c == '.' || (c :: cs).any isForbidden then some (.invalidIdentifier id) else none

def checkIdentifier (id : String) : Except Failure Unit :=
  match identifierFault id with
  | some fault => .error (.store fault)
  | none => .ok ()

def isValidIdentifier (id : String) : Bool :=
  (identifierFault id).isNone

def fileName (id extension : String) : String :=
  id ++ "." ++ extension

def dropEnding? (ending cs : List Char) : Option (List Char) :=
  if ending.isSuffixOf cs then some (cs.take (cs.length - ending.length)) else none

/-- The identifier of the record that a file of a given name holds. -/
def stem? (name extension : String) : Option String :=
  (dropEnding? ('.' :: extension.toList) name.toList).map String.ofList

end ProfileShell.Record
