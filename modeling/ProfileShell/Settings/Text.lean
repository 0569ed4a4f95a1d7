import ProfileShell.Settings.Basic
import ProfileShell.Toml.Document
import ProfileShell.Toml.Text.Printer

/-!
The TOML text of settings.

Every setting is a field of one line. When a text is read, missing fields keep their standard value
and unknown ones are passed over.
-/

set_option autoImplicit false
set_option relaxedAutoImplicit false

namespace ProfileShell.Settings

open Toml (Node Fields)

def fields (s : Settings) : List (String × String) :=
  [("overlap_policy", s.overlapPolicy.name), ("prompt", s.prompt),
    ("session_prompt", s.sessionPrompt), ("saves_dir", s.savesDir),
    ("record_extension", s.recordExtension)]

def fieldLine (field : String × String) : List Char :=
  field.1.toList ++ [' ', '=', ' '] ++ Toml.writeText field.2 ++ ['\n']

def toText (s : Settings) : String :=
  String.ofList (s.fields.flatMap fieldLine)

def textField? (table : Fields) (name standard : String) : Option String :=
  match table.lookup name with
  | none => some standard
  | some (.text s) => some s
  | some _ => none

def isHollow : Node → Bool
  | .array items => items.isEmpty
  | .table _ fields => fields.isEmpty
  | _ => false

/-- The policy that a node names: by a text, or by the only field of a table, which must be
hollow. -/
def policyOfNode? : Node → Option OverlapPolicy
  | .text name => OverlapPolicy.ofName? name
  | .table _ [(name, node)] => if isHollow node then OverlapPolicy.ofName? name else none
  | _ => none

def policyField? (table : Fields) : Option OverlapPolicy :=
  match table.lookup "overlap_policy" with
  | none => some standard.overlapPolicy
  | some node => policyOfNode? node

def ofTable? (table : Fields) : Option Settings := do
  let overlapPolicy ← policyField? table
  let prompt ← textField? table "prompt" standard.prompt
  let sessionPrompt ← textField? table "session_prompt" standard.sessionPrompt
  let savesDir ← textField? table "saves_dir" standard.savesDir
  let recordExtension ← textField? table "record_extension" standard.recordExtension
  some { overlapPolicy, prompt, sessionPrompt, savesDir, recordExtension }

def ofText (text : String) : Except Failure Settings :=
  match (Toml.parse? text).bind ofTable? with
  | some s => .ok s
  | none => .error .tomlRead

end ProfileShell.Settings
