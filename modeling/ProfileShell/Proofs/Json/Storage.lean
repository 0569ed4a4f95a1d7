import ProfileShell.Json.Parser
import ProfileShell.Proofs.Json.Reading
import ProfileShell.Proofs.TextMap

/-!
Values that can be stored: their text is accepted when it is read.

A value can be stored if its whole numbers are those of 64 bits, its doubles are finite, its objects
list their fields as maps do and its containers are not nested too deep. Every value that has been
read is one. A stored value is read back with each double taken for the one that its digits are read
as, which may be a neighbour.
-/

set_option autoImplicit false
set_option relaxedAutoImplicit false

namespace ProfileShell

section Lists

variable {α β γ : Type}

theorem mapM_map_eq_some {f : α → β} {g : β → Option γ} {h : α → γ} {as : List α}
    (each : ∀ a ∈ as, g (f a) = some (h a)) : (as.map f).mapM g = some (as.map h) := by
  induction as with
  | nil => rfl
  | cons a as ih =>
    obtain ⟨first, rest⟩ := List.forall_mem_cons.mp each
    simp [first, ih rest]

theorem exists_of_mem_mapM {g : β → Option γ} {bs : List β} {cs : List γ}
    (all : bs.mapM g = some cs) {c : γ} (member : c ∈ cs) : ∃ b ∈ bs, g b = some c := by
  induction bs generalizing cs with
  | nil =>
    cases all
    cases member
  | cons b bs ih =>
    simp only [List.mapM_cons, Option.pure_def, Option.bind_eq_bind, Option.bind_eq_some_iff,
      Option.some.injEq] at all
    obtain ⟨d, first, ds, rest, rfl⟩ := all
    rcases List.mem_cons.mp member with rfl | member
    · exact ⟨b, List.mem_cons_self, first⟩
    · obtain ⟨b', member', found⟩ := ih rest member
      exact ⟨b', List.mem_cons_of_mem b member', found⟩

end Lists

namespace Binary64

/-- The double that the text of a double is read as. What is not finite has no number. -/
def reread : Binary64 → Binary64
  | .finite negative r => ((Json.Numeral.ofRank negative r).double?).getD .nan
  | x => x

theorem double?_eq_reread (negative : Bool) (r : Rank) :
    (Json.Numeral.ofRank negative r).double? = some (reread (.finite negative r)) := by
  obtain ⟨x, read, -⟩ := Json.Numeral.double?_ofRank negative r
  simp only [reread, read, Option.getD_some]

end Binary64

namespace Json

mutual

def reread : Json → Json
  | .number x => .number x.reread
  | .array items => .array (rereadItems items)
  | .object fields => .object (rereadFields fields)
  | v => v

def rereadItems : List Json → List Json
  | [] => []
  | v :: vs => reread v :: rereadItems vs

def rereadFields : List (String × Json) → List (String × Json)
  | [] => []
  | (k, v) :: fs => (k, reread v) :: rereadFields fs

end

theorem rereadItems_eq (items : List Json) : rereadItems items = items.map reread := by
  induction items with
  | nil => simp [rereadItems]
  | cons v vs ih => simp [rereadItems, ih]

theorem rereadFields_eq (fields : List (String × Json)) :
    rereadFields fields = fields.map fun field => (field.1, reread field.2) := by
  induction fields with
  | nil => simp [rereadFields]
  | cons field fs ih => simp [rereadFields, ih]

def Fits (i : Int) : Prop :=
  Int64.minValue.toInt ≤ i ∧ i < (UInt64.size : Nat)

/-- The value can be stored and read where so many containers may enclose one another. -/
def Storable : Nat → Json → Prop
  | _, .null => True
  | _, .bool _ => True
  | _, .int i => Fits i
  | _, .number x => x.isFinite = true
  | _, .text _ => True
  | 0, .array _ => False
  | 0, .object _ => False
  | depth + 1, .array items => ∀ v ∈ items, Storable depth v
  | depth + 1, .object fields =>
    (fields.Pairwise fun a b => a.1 < b.1) ∧ ∀ field ∈ fields, Storable depth field.2

theorem int?_ofInt {i : Int} (fits : Fits i) : (Numeral.ofInt i).int? = some i := by
  have digits : Nat.ofDigitChars 10 (Numeral.ofInt i).whole 0 = i.natAbs :=
    Nat.ofDigitChars_ten_toDigits
  have signed :
      (if (Numeral.ofInt i).negative = true then -(i.natAbs : Int) else i.natAbs) = i := by
    unfold Numeral.ofInt
    by_cases negative : i < 0
    · rw [if_pos (decide_eq_true negative)]
      omega
    · rw [if_neg (by rw [decide_eq_false negative]; exact Bool.false_ne_true)]
      omega
  have nonzero : ((Numeral.ofInt i).negative && i.natAbs == 0) = false := by
    rw [Bool.and_eq_false_iff, beq_eq_false_iff_ne]
    by_cases zero : i.natAbs = 0
    · refine .inl (decide_eq_false ?_)
      omega
    · exact .inr zero
  unfold Numeral.int?
  dsimp only
  rw [digits, nonzero, signed]
  rw [decide_eq_true fits.1, decide_eq_true fits.2]
  rfl

private theorem fits_of_int? {n : Numeral} {i : Int} (read : n.int? = some i) : Fits i := by
  unfold Numeral.int? at read
  simp only at read
  split at read
  · generalize (if n.negative = true then -(Nat.ofDigitChars 10 n.whole 0 : Int)
      else (Nat.ofDigitChars 10 n.whole 0 : Int)) = j at read
    split at read
    · rename_i range
      rw [Bool.and_eq_true, decide_eq_true_eq, decide_eq_true_eq] at range
      cases read
      exact range
    · cases read
  · cases read

theorem isFinite_of_double? {n : Numeral} {x : Binary64} (read : n.double? = some x) :
    x.isFinite = true := by
  unfold Numeral.double? at read
  simp only [Option.bind_eq_bind, Option.bind_eq_some_iff] at read
  obtain ⟨y, -, signed⟩ := read
  split at signed
  · rename_i finite
    cases signed
    obtain ⟨s, r, rfl⟩ := (Binary64.isFinite_iff y).mp finite
    cases n.negative <;> rfl
  · cases signed

private theorem toJson?_ofRank (negative : Bool) (r : Rank) :
    (Numeral.ofRank negative r).toJson? = some (.number (.reread (.finite negative r))) := by
  unfold Numeral.toJson?
  rw [Numeral.int?_ofRank, Binary64.double?_eq_reread]
  rfl

private theorem toJson?_ofInt {i : Int} (fits : Fits i) :
    (Numeral.ofInt i).toJson? = some (.int i) := by
  unfold Numeral.toJson?
  rw [int?_ofInt fits]

private theorem storable_numeral {n : Numeral} {depth : Nat} {v : Json}
    (read : n.toJson? = some v) : Storable depth v := by
  unfold Numeral.toJson? at read
  split at read
  · rename_i i whole
    cases read
    simp only [Storable]
    exact fits_of_int? whole
  · obtain ⟨x, double, rfl⟩ := Option.map_eq_some_iff.mp read
    simp only [Storable]
    exact isFinite_of_double? double

theorem toJson?_raw (v : Json) :
    ∀ depth, Storable depth v → (raw v).toJson? depth = some (reread v) := by
  -- The depth that is left varies along the induction: members of a container have one level less.
  induction v using induct with
  | null => exact fun depth _ => by cases depth <;> rfl
  | bool b => exact fun depth _ => by cases depth <;> rfl
  | text s => exact fun depth _ => by cases depth <;> rfl
  | int i =>
    intro depth storable
    simp only [Storable] at storable
    simp only [raw, reread, Raw.toJson?]
    exact toJson?_ofInt storable
  | number x =>
    intro depth storable
    simp only [Storable] at storable
    obtain ⟨negative, r, rfl⟩ := (Binary64.isFinite_iff x).mp storable
    simp only [raw, reread, Raw.toJson?]
    exact toJson?_ofRank negative r
  | array items ih =>
    intro depth storable
    cases depth with
    | zero => cases storable
    | succ depth =>
      have read := mapM_map_eq_some fun v (member : v ∈ items) =>
        ih v member depth (storable v member)
      simp only [raw, reread, Raw.toJson?, rawItems_eq, rereadItems_eq, read, Option.map_some]
  | object fields ih =>
    intro depth storable
    cases depth with
    | zero => cases storable
    | succ depth =>
      obtain ⟨ascending, values⟩ := storable
      simp only [raw, reread, Raw.toJson?, rawFields_eq, rereadFields_eq]
      rw [mapM_map_eq_some (h := fun field => (field.1, reread field.2)) fun field member => by
        simp only [ih field member depth (values field member)]]
      rw [Option.map_some, ← TextMap.entries_map reread ⟨fields, ascending⟩,
        TextMap.ofList_entries]
      rfl

theorem storable_of_toJson? {depth : Nat} {tree : Raw} {v : Json}
    (read : tree.toJson? depth = some v) : Storable depth v := by
  induction depth generalizing tree v with
  | zero =>
    cases tree with
    | null => cases read; trivial
    | bool b => cases read; trivial
    | text s =>
      obtain ⟨text, rfl, rfl⟩ := Option.map_eq_some_iff.mp read
      trivial
    | numeral n => exact storable_numeral read
    | array items => cases read
    | object fields => cases read
  | succ depth ih =>
    cases tree with
    | null => cases read; trivial
    | bool b => cases read; trivial
    | text s =>
      obtain ⟨text, rfl, rfl⟩ := Option.map_eq_some_iff.mp read
      trivial
    | numeral n => exact storable_numeral read
    | array items =>
      obtain ⟨values, all, rfl⟩ := Option.map_eq_some_iff.mp read
      intro v member
      obtain ⟨item, -, found⟩ := exists_of_mem_mapM all member
      exact ih found
    | object fields =>
      obtain ⟨values, all, rfl⟩ := Option.map_eq_some_iff.mp read
      refine ⟨(TextMap.ofList values).ascending, fun entry member => ?_⟩
      obtain ⟨field, -, found⟩ := exists_of_mem_mapM all (TextMap.mem_ofList member)
      split at found
      · rename_i value _ readValue
        cases found
        exact ih readValue
      · cases found

end Json

end ProfileShell
