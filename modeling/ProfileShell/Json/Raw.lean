import ProfileShell.Json.Token

/-!
JSON text as a tree, before anything is made of its numbers and texts.

The tree is put together token by token: containers that are still open wait in a list of frames,
innermost first, so reading is one pass over the tokens and needs no bound on the nesting.
-/

set_option autoImplicit false
set_option relaxedAutoImplicit false

namespace ProfileShell.Json

inductive Raw
  | null
  | bool (b : Bool)
  | numeral (n : Numeral)
  | text (s : Option String)
  | array (items : List Raw)
  | object (fields : List (Option String × Raw))
  deriving Inhabited

/-- A container that waits for the value being read, with its earlier members, the last first. -/
inductive Frame
  | array (done : List Raw)
  | object (done : List (Option String × Raw)) (key : Option String)

/-- Where reading stands between two tokens. -/
inductive Stage
  | value (frames : List Frame)
  /-- An array has just been opened: a value or its end must come. -/
  | firstItem (frames : List Frame)
  /-- An object has just been opened: a key or its end must come. -/
  | firstKey (frames : List Frame)
  | key (done : List (Option String × Raw)) (frames : List Frame)
  | colon (done : List (Option String × Raw)) (key : Option String) (frames : List Frame)
  | after (value : Raw) (frames : List Frame)

def startValue (frames : List Frame) : Token → Option Stage
  | .null => some (.after .null frames)
  | .bool b => some (.after (.bool b) frames)
  | .numeral n => some (.after (.numeral n) frames)
  | .text s => some (.after (.text s) frames)
  | .openArray => some (.firstItem frames)
  | .openObject => some (.firstKey frames)
  | _ => none

/-- The stage after one more token. -/
def Stage.step : Stage → Token → Option Stage
  | .value frames, token => startValue frames token
  | .firstItem frames, .closeArray => some (.after (.array []) frames)
  | .firstItem frames, token => startValue (.array [] :: frames) token
  | .firstKey frames, .closeObject => some (.after (.object []) frames)
  | .firstKey frames, .text name => some (.colon [] name frames)
  | .key done frames, .text name => some (.colon done name frames)
  | .colon done name frames, .colon => some (.value (.object done name :: frames))
  | .after v (.array done :: frames), .comma => some (.value (.array (v :: done) :: frames))
  | .after v (.array done :: frames), .closeArray =>
    some (.after (.array (v :: done).reverse) frames)
  | .after v (.object done name :: frames), .comma => some (.key ((name, v) :: done) frames)
  | .after v (.object done name :: frames), .closeObject =>
    some (.after (.object ((name, v) :: done).reverse) frames)
  | _, _ => none

def Raw.ofTokens? (tokens : List Token) : Option Raw :=
  match tokens.foldlM Stage.step (.value []) with
  | some (.after v []) => some v
  | _ => none

def Raw.parse? (s : String) : Option Raw :=
  (tokens? s.toList).bind Raw.ofTokens?

end ProfileShell.Json
