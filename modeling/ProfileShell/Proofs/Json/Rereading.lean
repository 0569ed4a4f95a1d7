import ProfileShell.Proofs.Json.Storage

/-!
Values that are read as they were written.

Of a value that can be stored nothing changes but its doubles, which are read in two roundings. So
it is read as it was written exactly when the text of each of its doubles reads back.
-/

set_option autoImplicit false
set_option relaxedAutoImplicit false

namespace ProfileShell

private theorem map_eq_self_iff {α : Type} (f : α → α) (as : List α) :
    as.map f = as ↔ ∀ a ∈ as, f a = a := by
  have unchanged := List.map_inj_left (l := as) (f := f) (g := id)
  rwa [List.map_id] at unchanged

theorem TextMap.map_eq_self_iff {α : Type} (f : α → α) (m : TextMap α) :
    m.map f = m ↔ ∀ value ∈ m.values, f value = value := by
  have entries : m.map f = m ↔ (m.map f).entries = m.entries :=
    ⟨congrArg TextMap.entries, TextMap.eq_of_entries_eq⟩
  rw [entries, entries_map, ProfileShell.map_eq_self_iff, values, List.forall_mem_map]
  simp only [Prod.ext_iff, true_and]

namespace Json

/-- The text that is written for a double is read as that double. -/
def ReadsBack (x : Binary64) : Prop :=
  parse? (number x).pretty = some (.number x)

theorem readsBack_iff {x : Binary64} (finite : x.isFinite = true) :
    ReadsBack x ↔ x.reread = x := by
  have storable : Storable maxDepth (.number x) := finite
  unfold ReadsBack parse?
  rw [parse?_pretty, Option.bind_some, toJson?_raw _ _ storable]
  simp [reread]

theorem readsBack_of_all {xs : List Binary64}
    (checked : (xs.all fun x => x.isFinite && x.reread == x) = true) : ∀ x ∈ xs, ReadsBack x := by
  intro x member
  have both := List.all_eq_true.mp checked x member
  rw [Bool.and_eq_true, beq_iff_eq] at both
  exact (readsBack_iff both.1).mpr both.2

/-! The double written as 0.9012500010410177 is read as its neighbour. -/
example : ¬ReadsBack (.finite false ⟨4606292957882988389, by decide⟩) := by
  rw [readsBack_iff rfl]
  decide +kernel

mutual

def doubles : Json → List Binary64
  | .number x => [x]
  | .array items => doublesOfItems items
  | .object fields => doublesOfFields fields
  | _ => []

def doublesOfItems : List Json → List Binary64
  | [] => []
  | v :: vs => doubles v ++ doublesOfItems vs

def doublesOfFields : List (String × Json) → List Binary64
  | [] => []
  | (_, v) :: fs => doubles v ++ doublesOfFields fs

end

private theorem doublesOfItems_eq (items : List Json) :
    doublesOfItems items = items.flatMap doubles := by
  induction items with
  | nil => rfl
  | cons v vs ih => simp [doublesOfItems, ih]

private theorem doublesOfFields_eq (fields : List (String × Json)) :
    doublesOfFields fields = fields.flatMap fun field => doubles field.2 := by
  induction fields with
  | nil => rfl
  | cons field fs ih => simp [doublesOfFields, ih]

theorem reread_eq_self_iff (v : Json) : v.reread = v ↔ ∀ x ∈ v.doubles, x.reread = x := by
  induction v using induct with
  | null => simp [reread, doubles]
  | bool b => simp [reread, doubles]
  | int i => simp [reread, doubles]
  | text s => simp [reread, doubles]
  | number x => simp [reread, doubles]
  | array items ih =>
    rw [reread, rereadItems_eq, doubles, doublesOfItems_eq, array.injEq, map_eq_self_iff,
      List.forall_mem_flatMap]
    exact forall₂_congr ih
  | object fields ih =>
    rw [reread, rereadFields_eq, doubles, doublesOfFields_eq, object.injEq, map_eq_self_iff,
      List.forall_mem_flatMap]
    simp only [Prod.ext_iff, true_and]
    exact forall₂_congr ih

theorem isFinite_of_mem_doubles {v : Json} {depth : Nat} (storable : Storable depth v)
    {x : Binary64} (member : x ∈ v.doubles) : x.isFinite = true := by
  induction v using induct generalizing depth with
  | null => cases member
  | bool b => cases member
  | int i => cases member
  | text s => cases member
  | number y =>
    obtain rfl : x = y := List.mem_singleton.mp member
    simpa only [Storable] using storable
  | array items ih =>
    cases depth with
    | zero => cases storable
    | succ depth =>
      rw [doubles, doublesOfItems_eq] at member
      obtain ⟨v, listed, inside⟩ := List.mem_flatMap.mp member
      exact ih v listed (storable v listed) inside
  | object fields ih =>
    cases depth with
    | zero => cases storable
    | succ depth =>
      rw [doubles, doublesOfFields_eq] at member
      obtain ⟨field, listed, inside⟩ := List.mem_flatMap.mp member
      exact ih field listed (storable.2 field listed) inside

end Json

end ProfileShell
