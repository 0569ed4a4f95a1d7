import ProfileShell.Binary64.Basic
import ProfileShell.TextMap

/-!
JSON values.

Whole numbers and doubles are told apart, as `1` and `1.0` are two values. The fields of an object
are a list, so that a record can keep the order of its declaration; objects of free JSON list
their fields in ascending order of the names.
-/

set_option autoImplicit false
set_option relaxedAutoImplicit false

namespace ProfileShell

inductive Json
  | null
  | bool (b : Bool)
  | int (i : Int)
  | number (x : Binary64)
  | text (s : String)
  | array (items : List Json)
  | object (fields : List (String × Json))
  deriving Inhabited

namespace Json

mutual

def decEq : (a b : Json) → Decidable (a = b)
  | .null, .null => isTrue rfl
  | .bool a, .bool b =>
    if h : a = b then isTrue (by rw [h]) else isFalse (by intro hc; injection hc; contradiction)
  | .int a, .int b =>
    if h : a = b then isTrue (by rw [h]) else isFalse (by intro hc; injection hc; contradiction)
  | .number a, .number b =>
    if h : a = b then isTrue (by rw [h]) else isFalse (by intro hc; injection hc; contradiction)
  | .text a, .text b =>
    if h : a = b then isTrue (by rw [h]) else isFalse (by intro hc; injection hc; contradiction)
  | .array a, .array b =>
    match decEqItems a b with
    | isTrue h => isTrue (by rw [h])
    | isFalse h => isFalse (by intro hc; injection hc; contradiction)
  | .object a, .object b =>
    match decEqFields a b with
    | isTrue h => isTrue (by rw [h])
    | isFalse h => isFalse (by intro hc; injection hc; contradiction)
  | .null, .bool _ | .null, .int _ | .null, .number _ | .null, .text _ | .null, .array _
  | .null, .object _ => isFalse (by intro hc; injection hc)
  | .bool _, .null | .bool _, .int _ | .bool _, .number _ | .bool _, .text _ | .bool _, .array _
  | .bool _, .object _ => isFalse (by intro hc; injection hc)
  | .int _, .null | .int _, .bool _ | .int _, .number _ | .int _, .text _ | .int _, .array _
  | .int _, .object _ => isFalse (by intro hc; injection hc)
  | .number _, .null | .number _, .bool _ | .number _, .int _ | .number _, .text _
  | .number _, .array _ | .number _, .object _ => isFalse (by intro hc; injection hc)
  | .text _, .null | .text _, .bool _ | .text _, .int _ | .text _, .number _ | .text _, .array _
  | .text _, .object _ => isFalse (by intro hc; injection hc)
  | .array _, .null | .array _, .bool _ | .array _, .int _ | .array _, .number _
  | .array _, .text _ | .array _, .object _ => isFalse (by intro hc; injection hc)
  | .object _, .null | .object _, .bool _ | .object _, .int _ | .object _, .number _
  | .object _, .text _ | .object _, .array _ => isFalse (by intro hc; injection hc)

def decEqItems : (a b : List Json) → Decidable (a = b)
  | [], [] => isTrue rfl
  | [], _ :: _ => isFalse (by intro hc; injection hc)
  | _ :: _, [] => isFalse (by intro hc; injection hc)
  | x :: xs, y :: ys =>
    match decEq x y, decEqItems xs ys with
    | isTrue h, isTrue hs => isTrue (by rw [h, hs])
    | isFalse h, _ => isFalse (by intro hc; injection hc; contradiction)
    | _, isFalse hs => isFalse (by intro hc; injection hc; contradiction)

def decEqFields : (a b : List (String × Json)) → Decidable (a = b)
  | [], [] => isTrue rfl
  | [], _ :: _ => isFalse (by intro hc; injection hc)
  | _ :: _, [] => isFalse (by intro hc; injection hc)
  | (k, x) :: xs, (l, y) :: ys =>
    if hk : k = l then
      match decEq x y, decEqFields xs ys with
      | isTrue h, isTrue hs => isTrue (by rw [hk, h, hs])
      | isFalse h, _ => isFalse (by intro hc; injection hc with hd; injection hd; contradiction)
      | _, isFalse hs => isFalse (by intro hc; injection hc; contradiction)
    else isFalse (by intro hc; injection hc with hd; injection hd; contradiction)

end

instance : DecidableEq Json := decEq

/-- An object of free JSON: its fields are those of a map, in the order of their names. -/
def ofMap (fields : TextMap Json) : Json :=
  .object fields.entries

def text? : Json → Option String
  | .text s => some s
  | _ => none

def items? : Json → Option (List Json)
  | .array items => some items
  | _ => none

end Json

end ProfileShell
