import ProfileShell.Json.Basic
import ProfileShell.Json.Raw

/-!
JSON values read from their tree: numbers are kept whole or read as doubles, of several fields
with one name the last counts, and containers are nested at most `maxDepth` deep.
-/

set_option autoImplicit false
set_option relaxedAutoImplicit false

namespace ProfileShell.Json

/-- The number of containers that may enclose one another. -/
def maxDepth : Nat := 127

def Numeral.toJson? (n : Numeral) : Option Json :=
  match n.int? with
  | some i => some (.int i)
  | none => n.double?.map .number

/-- The value of a tree that may hold `depth` levels of containers. -/
def Raw.toJson? : Nat → Raw → Option Json
  | _, .null => some .null
  | _, .bool b => some (.bool b)
  | _, .numeral n => n.toJson?
  | _, .text s => s.map .text
  | 0, .array _ => none
  | 0, .object _ => none
  | depth + 1, .array items => (items.mapM (Raw.toJson? depth)).map .array
  | depth + 1, .object fields =>
    (fields.mapM fun (field : Option String × Raw) =>
      match field.1, Raw.toJson? depth field.2 with
      | some key, some value => some (key, value)
      | _, _ => none).map fun fields => ofMap (TextMap.ofList fields)

def parse? (s : String) : Option Json :=
  (Raw.parse? s).bind (Raw.toJson? maxDepth)

end ProfileShell.Json
