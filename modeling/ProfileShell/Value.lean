import ProfileShell.Binary64.Shortest
import ProfileShell.Binary64.Decimal
import ProfileShell.Json.Basic
import ProfileShell.Text.Ascii

/-!
The types of command arguments and their values.
-/

set_option autoImplicit false
set_option relaxedAutoImplicit false

namespace ProfileShell

/-- The type that a parameter declares. -/
inductive ValueType
  | integer
  | number
  | text
  | boolean
  /-- One of some words, in any case of its ASCII letters. -/
  | choice (words : List String)
  deriving DecidableEq

/-- The value of an argument; a chosen word is a text. -/
inductive Value
  | integer (i : Int64)
  | number (x : Binary64)
  | text (s : String)
  | boolean (b : Bool)
  deriving DecidableEq

namespace ValueType

def name : ValueType → String
  | .integer => "int"
  | .number => "num"
  | .text => "str"
  | .boolean => "bool"
  | .choice _ => "choice"

/-- A type as it appears in usage lines: the words of a choice, or the short name. -/
def display : ValueType → String
  | .choice words => "|".intercalate words
  | type => type.name

/-- Two types are of one kind; the words of choices are not compared. -/
def sameKind : ValueType → ValueType → Bool
  | .integer, .integer => true
  | .number, .number => true
  | .text, .text => true
  | .boolean, .boolean => true
  | .choice _, .choice _ => true
  | _, _ => false

/-- A value is legal for a type: of its kind, finite, and one of the words. -/
def accepts : ValueType → Value → Bool
  | .integer, .integer _ => true
  | .number, .number x => x.isFinite
  | .text, .text _ => true
  | .boolean, .boolean _ => true
  | .choice words, .text s => words.any fun word => Text.sameIgnoringCase word s
  | _, _ => false

def trueWords : List String := ["1", "true", "yes", "y", "t"]

def falseWords : List String := ["0", "false", "no", "n", "f"]

def readBoolean (token : String) : Option Bool :=
  let word := Text.lowerAscii token
  if trueWords.contains word then some true
  else if falseWords.contains word then some false
  else none

def readNumber (token : String) : Option Binary64 :=
  (Binary64.read token).filter Binary64.isFinite

/-- The value of a token as a type. A chosen word is answered in its declared spelling. -/
def coerce : ValueType → String → Option Value
  | .integer, token => (Text.readInt64 token).map .integer
  | .number, token => (readNumber token).map .number
  | .text, token => some (.text token)
  | .boolean, token => (readBoolean token).map .boolean
  | .choice words, token =>
    (words.find? fun word => Text.sameIgnoringCase word token).map .text

end ValueType

namespace Value

def display : Value → String
  | .integer i => toString i.toInt
  | .number x => x.toText
  | .text s => s
  | .boolean b => if b then "true" else "false"

def toJson : Value → Json
  | .integer i => .int i.toInt
  | .number x => .number x
  | .text s => .text s
  | .boolean b => .bool b

end Value

end ProfileShell
