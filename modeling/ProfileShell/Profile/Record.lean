import ProfileShell.Failure
import ProfileShell.Json.Parser
import ProfileShell.Json.Printer
import ProfileShell.Profile.Basic
import ProfileShell.Text.Decimal

/-!
Profiles as JSON records.

A record is written as an object with all fields in the order of their declaration. It is read from
such an object in any order, where unknown fields are skipped and optional ones may be missing, or
from an array of the field values in order, where optional ones may be missing at the end.
-/

set_option autoImplicit false
set_option relaxedAutoImplicit false

namespace ProfileShell.Profile

open Json (Raw)

def recordType : String := "player_profile"

def itemJson (item : Item) : Json :=
  .object [("id", .text item.id), ("name", .text item.name)]

def toJson (p : Profile) : Json :=
  .object
    [("type", .text recordType),
      ("id", .text p.id),
      ("name", .text p.name),
      ("gamemode", .text p.gamemode),
      ("difficulty", .text p.difficulty),
      ("gamerules", .ofMap p.gamerules),
      ("character_xp", .number p.characterXp),
      ("skill_xp", .ofMap (p.skillXp.map .number)),
      ("quest_stages", .ofMap (p.questStages.map fun i => .int i.toInt)),
      ("achievements", .ofMap (p.achievements.map .bool)),
      ("inventory", .array (p.inventory.map itemJson)),
      ("total_playtime", .number p.totalPlaytime),
      ("last_updated", .number p.lastUpdated)]

def toText (p : Profile) : String :=
  p.toJson.pretty

def readText : Raw → Option String
  | .text s => s
  | _ => none

/-- A finite double; whole numbers are taken as doubles. -/
def readDouble : Raw → Option Binary64
  | .numeral n => n.double?
  | _ => none

/-- A signed 64-bit number, written without fraction and exponent. -/
def readInt64 : Raw → Option Int64
  | .numeral n => n.int?.bind fun i => if Text.fitsInt64 i then some (Int64.ofInt i) else none
  | _ => none

def readBool : Raw → Option Bool
  | .bool b => some b
  | _ => none

/-- A map from texts; of several entries with one key the last counts. -/
def readMap {α : Type} (read : Raw → Option α) : Raw → Option (TextMap α)
  | .object fields =>
    (fields.mapM fun (field : Option String × Raw) =>
      match field.1, read field.2 with
      | some key, some value => some (key, value)
      | _, _ => none).map TextMap.ofList
  | _ => none

/-- Free JSON inside a record and one of its fields. -/
def readFree (v : Raw) : Option Json :=
  v.toJson? (Json.maxDepth - 2)

/-- The value of a field that may occur once at most; absent if it does not occur, and a fault if
it occurs again or cannot be read. -/
def readField {α : Type} (name : String) (read : Raw → Option α)
    (fields : List (String × Raw)) : Option (Option α) :=
  match fields.filter fun field => field.1 == name with
  | [] => some none
  | [field] => (read field.2).map some
  | _ => none

def requiredField {α : Type} (name : String) (read : Raw → Option α)
    (fields : List (String × Raw)) : Option α :=
  (readField name read fields).bind fun v => v

/-- The value of a field, or a value that stands for its absence. -/
def optionalField {α : Type} (name : String) (read : Raw → Option α) (absent : α)
    (fields : List (String × Raw)) : Option α :=
  (readField name read fields).map fun v => v.getD absent

/-- The fields of an object with usable names; an array lists the values of the fields `names` in
order, and may not list more. -/
def fieldsOf? (names : List String) : Raw → Option (List (String × Raw))
  | .object fields => fields.mapM fun (field : Option String × Raw) =>
      field.1.map fun name => (name, field.2)
  | .array items => if items.length ≤ names.length then some (names.zip items) else none
  | _ => none

def readItem (v : Raw) : Option Item := do
  let fields ← fieldsOf? ["id", "name"] v
  some
    { id := ← requiredField "id" readText fields
      name := ← requiredField "name" readText fields }

def readInventory : Raw → Option (List Item)
  | .array items => items.mapM readItem
  | _ => none

def fieldNames : List String :=
  ["type", "id", "name", "gamemode", "difficulty", "gamerules", "character_xp", "skill_xp",
    "quest_stages", "achievements", "inventory", "total_playtime", "last_updated"]

/-- The type and the profile of a record. -/
def readRecord (v : Raw) : Option (String × Profile) := do
  let fields ← fieldsOf? fieldNames v
  let type ← requiredField "type" readText fields
  let id ← requiredField "id" readText fields
  let name ← requiredField "name" readText fields
  let fresh := Profile.new id name
  let profile : Profile :=
    { id
      name
      gamemode := ← optionalField "gamemode" readText fresh.gamemode fields
      difficulty := ← optionalField "difficulty" readText fresh.difficulty fields
      gamerules := ← optionalField "gamerules" (readMap readFree) fresh.gamerules fields
      characterXp := ← optionalField "character_xp" readDouble fresh.characterXp fields
      skillXp := ← optionalField "skill_xp" (readMap readDouble) fresh.skillXp fields
      questStages := ← optionalField "quest_stages" (readMap readInt64) fresh.questStages fields
      achievements := ← optionalField "achievements" (readMap readBool) fresh.achievements fields
      inventory := ← optionalField "inventory" readInventory fresh.inventory fields
      totalPlaytime := ← optionalField "total_playtime" readDouble fresh.totalPlaytime fields
      lastUpdated := ← optionalField "last_updated" readDouble fresh.lastUpdated fields }
  some (type, profile)

/-- The profile of a record's text. A record of another type is refused by its type. -/
def ofText (text : String) : Except Failure Profile :=
  match (Raw.parse? text).bind readRecord with
  | none => .error .json
  | some (type, profile) =>
    if type = recordType then .ok profile
    else .error (.store (.wrongRecordType recordType type))

end ProfileShell.Profile
