import ProfileShell.Profile.Record
import ProfileShell.Proofs.Json.Storage

/-!
Profile records are read back.

The record of a profile is accepted if the doubles of the profile are finite and its game rules can
be stored. Whatever has been read from a record is such a profile, so it can be written again.
-/

set_option autoImplicit false
set_option relaxedAutoImplicit false

namespace ProfileShell.Profile

open Json (Raw raw)

section Fields

variable {α : Type} {name : String} {read : Raw → Option α}

private theorem fieldsOf?_raw (names : List String) (fields : List (String × Json)) :
    fieldsOf? names (raw (.object fields)) =
      some (fields.map fun field => (field.1, raw field.2)) := by
  simp only [raw, fieldsOf?, Json.rawFields_eq]
  exact mapM_map_eq_some fun _ _ => rfl

private theorem readField_of_mem {fields : List (String × Raw)} {v : Raw}
    (distinct : (fields.map Prod.fst).Nodup) (member : (name, v) ∈ fields) :
    readField name read fields = (read v).map some := by
  have only : (fields.filter fun field => field.1 == name) = [(name, v)] := by
    induction fields with
    | nil => cases member
    | cons field fields ih =>
      rw [List.map_cons, List.nodup_cons] at distinct
      rcases List.mem_cons.mp member with rfl | member
      · have others : (fields.filter fun field => field.1 == name) = [] := by
          rw [List.filter_eq_nil_iff]
          intro other member same
          have listed := List.mem_map_of_mem (f := Prod.fst) member
          rw [beq_iff_eq.mp same] at listed
          exact distinct.1 listed
        rw [List.filter_cons_of_pos (by simp), others]
      · have other : ¬(field.1 == name) = true := by
          intro same
          exact distinct.1 (beq_iff_eq.mp same ▸ List.mem_map_of_mem (f := Prod.fst) member)
        rw [List.filter_cons, if_neg other, ih distinct.2 member]
  unfold readField
  rw [only]

private theorem requiredField_of_mem {fields : List (String × Raw)} {v : Raw}
    (distinct : (fields.map Prod.fst).Nodup) (member : (name, v) ∈ fields) :
    requiredField name read fields = read v := by
  unfold requiredField
  rw [readField_of_mem distinct member]
  cases read v <;> rfl

private theorem optionalField_of_mem {absent : α} {fields : List (String × Raw)} {v : Raw}
    (distinct : (fields.map Prod.fst).Nodup) (member : (name, v) ∈ fields) :
    optionalField name read absent fields = read v := by
  unfold optionalField
  rw [readField_of_mem distinct member]
  cases read v <;> rfl

private theorem of_optionalField {P : α → Prop} {absent a : α} {fields : List (String × Raw)}
    (found : optionalField name read absent fields = some a) (ofAbsent : P absent)
    (ofRead : ∀ v a, read v = some a → P a) : P a := by
  unfold optionalField readField at found
  split at found
  · cases found
    exact ofAbsent
  · rename_i field _
    obtain ⟨value, present, rfl⟩ := Option.map_eq_some_iff.mp found
    obtain ⟨b, value, rfl⟩ := Option.map_eq_some_iff.mp present
    exact ofRead field.2 b value
  · cases found

private theorem readMap_raw {β : Type} (read : Raw → Option α) (write : β → Json) (h : β → α)
    {m : TextMap β}
    (each : ∀ entry ∈ m.entries, read (raw (write entry.2)) = some (h entry.2)) :
    readMap read (raw (.ofMap (m.map write))) = some (m.map h) := by
  simp only [Json.ofMap, TextMap.entries_map, raw, Json.rawFields_eq, List.map_map, readMap]
  rw [mapM_map_eq_some (h := fun entry => (entry.1, h entry.2)) fun entry member => by
    simp only [Function.comp_apply, each entry member]]
  rw [Option.map_some, ← TextMap.entries_map h m, TextMap.ofList_entries]

private theorem of_readMap {P : α → Prop} {v : Raw} {m : TextMap α}
    (found : readMap read v = some m) (ofRead : ∀ v a, read v = some a → P a) :
    ∀ entry ∈ m.entries, P entry.2 := by
  unfold readMap at found
  split at found
  · obtain ⟨entries, all, rfl⟩ := Option.map_eq_some_iff.mp found
    intro entry member
    obtain ⟨field, -, value⟩ := exists_of_mem_mapM all (TextMap.mem_ofList member)
    split at value
    · rename_i a _ readValue
      cases value
      exact ofRead _ a readValue
    · cases value
  · cases found

end Fields

private theorem readText_raw (s : String) : readText (raw (.text s)) = some s := rfl

private theorem readDouble_raw {x : Binary64} (finite : x.isFinite = true) :
    readDouble (raw (.number x)) = some x.reread := by
  obtain ⟨negative, r, rfl⟩ := (Binary64.isFinite_iff x).mp finite
  exact Binary64.double?_eq_reread negative r

private theorem isFinite_of_readDouble {v : Raw} {x : Binary64} (found : readDouble v = some x) :
    x.isFinite = true := by
  cases v with
  | numeral n => exact Json.isFinite_of_double? found
  | _ => cases found

private theorem readInt64_raw (i : Int64) : readInt64 (raw (.int i.toInt)) = some i := by
  have least := Int64.minValue_le_toInt i
  have greatest := Int64.toInt_le i
  have fits : Json.Fits i.toInt := by
    have bound : Int64.maxValue.toInt < (UInt64.size : Nat) := by decide
    exact ⟨least, Int.lt_of_le_of_lt greatest bound⟩
  have inside : Text.fitsInt64 i.toInt = true := by
    unfold Text.fitsInt64
    rw [Bool.and_eq_true, decide_eq_true_eq, decide_eq_true_eq]
    exact ⟨least, greatest⟩
  simp only [raw, readInt64]
  rw [Json.int?_ofInt fits, Option.bind_some, if_pos inside, Int64.ofInt_toInt]

private theorem readBool_raw (b : Bool) : readBool (raw (.bool b)) = some b := rfl

private theorem readItem_raw (item : Item) : readItem (raw (itemJson item)) = some item := by
  have distinct : ([("id", raw (.text item.id)), ("name", raw (.text item.name))].map
      Prod.fst).Nodup :=
    (by decide : ["id", "name"].Nodup)
  unfold readItem itemJson
  rw [fieldsOf?_raw]
  simp only [List.map_cons, List.map_nil, Option.bind_eq_bind, Option.bind_some]
  rw [requiredField_of_mem distinct List.mem_cons_self,
    requiredField_of_mem distinct (List.mem_cons_of_mem _ List.mem_cons_self)]
  rfl

private theorem readInventory_raw (items : List Item) :
    readInventory (raw (.array (items.map itemJson))) = some items := by
  simp only [raw, Json.rawItems_eq, List.map_map, readInventory]
  have each := mapM_map_eq_some fun item (_ : item ∈ items) => readItem_raw item
  exact each.trans (congrArg some (List.map_id' items))

/-- A profile that can be written: its record is accepted when it is read. -/
structure Writable (p : Profile) : Prop where
  gamerules : ∀ entry ∈ p.gamerules.entries, Json.Storable (Json.maxDepth - 2) entry.2
  characterXp : p.characterXp.isFinite = true
  skillXp : ∀ entry ∈ p.skillXp.entries, entry.2.isFinite = true
  totalPlaytime : p.totalPlaytime.isFinite = true
  lastUpdated : p.lastUpdated.isFinite = true

def reread (p : Profile) : Profile :=
  { p with
    gamerules := p.gamerules.map Json.reread
    characterXp := p.characterXp.reread
    skillXp := p.skillXp.map Binary64.reread
    totalPlaytime := p.totalPlaytime.reread
    lastUpdated := p.lastUpdated.reread }

private theorem readGamerules_raw {m : TextMap Json}
    (storable : ∀ entry ∈ m.entries, Json.Storable (Json.maxDepth - 2) entry.2) :
    readMap readFree (raw (.ofMap m)) = some (m.map Json.reread) := by
  have read := readMap_raw readFree (fun v => v) Json.reread fun entry member =>
    Json.toJson?_raw entry.2 _ (storable entry member)
  rw [TextMap.map_same] at read
  exact read

def rawFields (p : Profile) : List (String × Raw) :=
  [("type", raw (.text recordType)),
    ("id", raw (.text p.id)),
    ("name", raw (.text p.name)),
    ("gamemode", raw (.text p.gamemode)),
    ("difficulty", raw (.text p.difficulty)),
    ("gamerules", raw (.ofMap p.gamerules)),
    ("character_xp", raw (.number p.characterXp)),
    ("skill_xp", raw (.ofMap (p.skillXp.map .number))),
    ("quest_stages", raw (.ofMap (p.questStages.map fun i => .int i.toInt))),
    ("achievements", raw (.ofMap (p.achievements.map .bool))),
    ("inventory", raw (.array (p.inventory.map itemJson))),
    ("total_playtime", raw (.number p.totalPlaytime)),
    ("last_updated", raw (.number p.lastUpdated))]

private theorem nodup_rawFields (p : Profile) : (p.rawFields.map Prod.fst).Nodup :=
  (by decide : fieldNames.Nodup)

private theorem fieldsOf?_toJson (p : Profile) :
    fieldsOf? fieldNames (raw p.toJson) = some p.rawFields :=
  fieldsOf?_raw fieldNames _

section Reading

variable (p : Profile) (position : Nat) {name : String} {v : Raw} {α : Type}
  (read : Raw → Option α)

private theorem requiredField_toJson (found : p.rawFields[position]? = some (name, v)) :
    requiredField name read p.rawFields = read v :=
  requiredField_of_mem (nodup_rawFields p) (List.mem_of_getElem? found)

private theorem optionalField_toJson (absent : α)
    (found : p.rawFields[position]? = some (name, v)) :
    optionalField name read absent p.rawFields = read v :=
  optionalField_of_mem (nodup_rawFields p) (List.mem_of_getElem? found)

end Reading

private theorem readRecord_raw {p : Profile} (writable : p.Writable) :
    readRecord (raw p.toJson) = some (recordType, p.reread) := by
  have gamerules := readGamerules_raw writable.gamerules
  have characterXp := readDouble_raw writable.characterXp
  have skills := readMap_raw readDouble .number Binary64.reread fun entry member =>
    readDouble_raw (writable.skillXp entry member)
  have quests := readMap_raw readInt64 (fun i : Int64 => .int i.toInt) (fun i => i)
    (m := p.questStages) fun entry _ => readInt64_raw entry.2
  have achievements := readMap_raw readBool .bool (fun b => b)
    (m := p.achievements) fun entry _ => readBool_raw entry.2
  have inventory := readInventory_raw p.inventory
  have totalPlaytime := readDouble_raw writable.totalPlaytime
  have lastUpdated := readDouble_raw writable.lastUpdated
  rw [TextMap.map_same] at quests achievements
  unfold readRecord
  rw [fieldsOf?_toJson]
  dsimp only [Option.bind_eq_bind, Option.bind_some]
  rw [requiredField_toJson p 0 readText rfl, readText_raw]
  dsimp only [Option.bind_some]
  rw [requiredField_toJson p 1 readText rfl, readText_raw]
  dsimp only [Option.bind_some]
  rw [requiredField_toJson p 2 readText rfl, readText_raw]
  dsimp only [Option.bind_some]
  rw [optionalField_toJson p 3 readText _ rfl, readText_raw]
  dsimp only [Option.bind_some]
  rw [optionalField_toJson p 4 readText _ rfl, readText_raw]
  dsimp only [Option.bind_some]
  rw [optionalField_toJson p 5 _ _ rfl, gamerules]
  dsimp only [Option.bind_some]
  rw [optionalField_toJson p 6 _ _ rfl, characterXp]
  dsimp only [Option.bind_some]
  rw [optionalField_toJson p 7 _ _ rfl, skills]
  dsimp only [Option.bind_some]
  rw [optionalField_toJson p 8 _ _ rfl, quests]
  dsimp only [Option.bind_some]
  rw [optionalField_toJson p 9 _ _ rfl, achievements]
  dsimp only [Option.bind_some]
  rw [optionalField_toJson p 10 _ _ rfl, inventory]
  dsimp only [Option.bind_some]
  rw [optionalField_toJson p 11 _ _ rfl, totalPlaytime]
  dsimp only [Option.bind_some]
  rw [optionalField_toJson p 12 _ _ rfl, lastUpdated]
  rfl

/-- The text of a profile that can be written is accepted; the profile keeps its identifier. -/
theorem ofText_toText {p : Profile} (writable : p.Writable) : ofText p.toText = .ok p.reread := by
  unfold ofText toText
  rw [Json.parse?_pretty, Option.bind_some, readRecord_raw writable]
  exact if_pos rfl

theorem isFinite_neverUpdated : neverUpdated.isFinite = true := by
  decide +kernel

private theorem isFinite_lastUpdated_new (id name : String) :
    (new id name).lastUpdated.isFinite = true := by
  simp only [new]
  exact isFinite_neverUpdated

theorem writable_new (id name : String) : (new id name).Writable where
  gamerules _ impossible := by cases impossible
  characterXp := rfl
  skillXp _ impossible := by cases impossible
  totalPlaytime := rfl
  lastUpdated := isFinite_lastUpdated_new id name

private theorem writable_of_readRecord {tree : Raw} {type : String} {p : Profile}
    (found : readRecord tree = some (type, p)) : p.Writable := by
  unfold readRecord at found
  dsimp only [Option.bind_eq_bind] at found
  obtain ⟨fields, -, found⟩ := Option.bind_eq_some_iff.mp found
  obtain ⟨_, -, found⟩ := Option.bind_eq_some_iff.mp found
  obtain ⟨id, -, found⟩ := Option.bind_eq_some_iff.mp found
  obtain ⟨name, -, found⟩ := Option.bind_eq_some_iff.mp found
  obtain ⟨_, -, found⟩ := Option.bind_eq_some_iff.mp found
  obtain ⟨_, -, found⟩ := Option.bind_eq_some_iff.mp found
  obtain ⟨gamerules, foundGamerules, found⟩ := Option.bind_eq_some_iff.mp found
  obtain ⟨characterXp, foundCharacterXp, found⟩ := Option.bind_eq_some_iff.mp found
  obtain ⟨skillXp, foundSkillXp, found⟩ := Option.bind_eq_some_iff.mp found
  obtain ⟨_, -, found⟩ := Option.bind_eq_some_iff.mp found
  obtain ⟨_, -, found⟩ := Option.bind_eq_some_iff.mp found
  obtain ⟨_, -, found⟩ := Option.bind_eq_some_iff.mp found
  obtain ⟨totalPlaytime, foundTotalPlaytime, found⟩ := Option.bind_eq_some_iff.mp found
  obtain ⟨lastUpdated, foundLastUpdated, found⟩ := Option.bind_eq_some_iff.mp found
  cases found
  have doubles : ∀ v x, readDouble v = some x → x.isFinite = true :=
    fun v x => isFinite_of_readDouble
  have finite : ∀ {name absent x}, optionalField name readDouble absent fields = some x →
      absent.isFinite = true → x.isFinite = true :=
    fun found ofAbsent => of_optionalField (P := fun x => x.isFinite = true) found ofAbsent doubles
  constructor
  · refine of_optionalField (P := fun m : TextMap Json =>
      ∀ entry ∈ m.entries, Json.Storable (Json.maxDepth - 2) entry.2) foundGamerules ?_ ?_
    · exact fun _ impossible => by cases impossible
    · exact fun v m read => of_readMap read fun _ _ => Json.storable_of_toJson?
  · exact finite foundCharacterXp rfl
  · refine of_optionalField (P := fun m : TextMap Binary64 =>
      ∀ entry ∈ m.entries, entry.2.isFinite = true) foundSkillXp ?_ ?_
    · exact fun _ impossible => by cases impossible
    · exact fun v m read => of_readMap read doubles
  · exact finite foundTotalPlaytime rfl
  · exact finite foundLastUpdated (isFinite_lastUpdated_new id name)

/-- What has been read from a text can be written. -/
theorem writable_of_ofText {text : String} {p : Profile} (accepted : ofText text = .ok p) :
    p.Writable := by
  unfold ofText at accepted
  split at accepted
  · cases accepted
  · rename_i type q found
    obtain ⟨tree, -, read⟩ := Option.bind_eq_some_iff.mp found
    split at accepted
    · cases accepted
      exact writable_of_readRecord read
    · cases accepted

end ProfileShell.Profile
