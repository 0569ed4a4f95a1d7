/-!
Finite maps from texts to values, kept in ascending order of their keys.

Texts are ordered by code points, which is also the order of their UTF-8 bytes. Because the keys
ascend strictly, a map is determined by what it answers: `TextMap.ext_get?`.
-/

set_option autoImplicit false
set_option relaxedAutoImplicit false

namespace ProfileShell

/-- Entries whose keys ascend strictly. -/
structure TextMap (α : Type) where
  entries : List (String × α)
  ascending : entries.Pairwise fun a b => a.1 < b.1
  deriving DecidableEq

namespace TextMap

variable {α β : Type}

def empty : TextMap α :=
  ⟨[], List.Pairwise.nil⟩

instance : Inhabited (TextMap α) := ⟨empty⟩

/-- Put an entry into ascending entries; an entry with the same key gives way. -/
def insertEntry (key : String) (value : α) : List (String × α) → List (String × α)
  | [] => [(key, value)]
  | entry :: rest =>
    if key < entry.1 then (key, value) :: entry :: rest
    else if key = entry.1 then (key, value) :: rest
    else entry :: insertEntry key value rest

private theorem mem_insertEntry {key : String} {value : α} {entry : String × α}
    {entries : List (String × α)} (h : entry ∈ insertEntry key value entries) :
    entry = (key, value) ∨ entry ∈ entries := by
  induction entries with
  | nil => simpa [insertEntry] using h
  | cons head rest ih =>
    rw [insertEntry] at h
    split at h
    · simpa using h
    · split at h
      · rcases List.mem_cons.1 h with h | h
        · exact Or.inl h
        · exact Or.inr (List.mem_cons_of_mem _ h)
      · rcases List.mem_cons.1 h with h | h
        · exact Or.inr (h ▸ List.mem_cons_self)
        · rcases ih h with h | h
          · exact Or.inl h
          · exact Or.inr (List.mem_cons_of_mem _ h)

private theorem lt_of_not_lt_of_ne {a b : String} (hlt : ¬a < b) (hne : a ≠ b) : b < a := by
  apply Decidable.byContradiction
  intro h
  exact hne (String.le_antisymm (String.not_lt.1 h) (String.not_lt.1 hlt))

private theorem insertEntry_ascending {key : String} {value : α} {entries : List (String × α)}
    (h : entries.Pairwise fun a b => a.1 < b.1) :
    (insertEntry key value entries).Pairwise fun a b => a.1 < b.1 := by
  induction entries with
  | nil => simp [insertEntry]
  | cons head rest ih =>
    have hhead := List.pairwise_cons.1 h
    rw [insertEntry]
    split
    · rename_i hlt
      refine List.pairwise_cons.2 ⟨?_, h⟩
      intro entry hmem
      rcases List.mem_cons.1 hmem with rfl | hmem
      · exact hlt
      · exact String.lt_trans hlt (hhead.1 entry hmem)
    · split
      · rename_i heq
        exact List.pairwise_cons.2 ⟨by simpa [heq] using hhead.1, hhead.2⟩
      · rename_i hlt hne
        refine List.pairwise_cons.2 ⟨?_, ih hhead.2⟩
        intro entry hmem
        rcases mem_insertEntry hmem with rfl | hmem
        · exact lt_of_not_lt_of_ne hlt hne
        · exact hhead.1 entry hmem

/-- The map with `key` sent to `value` and every other key as before. -/
def insert (m : TextMap α) (key : String) (value : α) : TextMap α :=
  ⟨insertEntry key value m.entries, insertEntry_ascending m.ascending⟩

def erase (m : TextMap α) (key : String) : TextMap α :=
  ⟨m.entries.filter fun entry => entry.1 != key, m.ascending.filter _⟩

def get? (m : TextMap α) (key : String) : Option α :=
  (m.entries.find? fun entry => entry.1 == key).map Prod.snd

def contains (m : TextMap α) (key : String) : Bool :=
  (m.get? key).isSome

def keys (m : TextMap α) : List String :=
  m.entries.map Prod.fst

def values (m : TextMap α) : List α :=
  m.entries.map Prod.snd

def size (m : TextMap α) : Nat :=
  m.entries.length

def isEmpty (m : TextMap α) : Bool :=
  m.entries.isEmpty

/-- The map of a list of entries; of several entries with one key the last counts. -/
def ofList (entries : List (String × α)) : TextMap α :=
  entries.foldl (fun m entry => m.insert entry.1 entry.2) empty

def map (f : α → β) (m : TextMap α) : TextMap β :=
  ⟨m.entries.map fun entry => (entry.1, f entry.2), by
    rw [List.pairwise_map]
    exact m.ascending⟩

@[simp] theorem get?_empty (key : String) : (empty : TextMap α).get? key = none := rfl

private theorem find?_insertEntry (key other : String) (value : α) (entries : List (String × α))
    (h : entries.Pairwise fun a b => a.1 < b.1) :
    ((insertEntry key value entries).find? fun entry => entry.1 == other).map Prod.snd =
      if other = key then some value
      else (entries.find? fun entry => entry.1 == other).map Prod.snd := by
  induction entries with
  | nil =>
    by_cases hk : other = key
    · simp [insertEntry, hk]
    · simp [insertEntry, hk, Ne.symm hk]
  | cons head rest ih =>
    have hhead := List.pairwise_cons.1 h
    rw [insertEntry]
    split
    · by_cases hk : other = key
      · simp [hk]
      · simp [hk, Ne.symm hk]
    · split
      · rename_i heq
        by_cases hk : other = key
        · simp [hk]
        · have : head.1 ≠ other := fun hc => hk (hc ▸ heq.symm)
          simp [hk, Ne.symm hk, this]
      · rename_i hne
        by_cases ho : head.1 = other
        · have : other ≠ key := fun hc => hne (hc ▸ ho.symm)
          simp [ho, this]
        · simp [ho, ih hhead.2]

/-- Inserting changes the answer for its own key only. -/
theorem get?_insert (m : TextMap α) (key other : String) (value : α) :
    (m.insert key value).get? other = if other = key then some value else m.get? other :=
  find?_insertEntry key other value m.entries m.ascending

theorem get?_erase (m : TextMap α) (key other : String) :
    (m.erase key).get? other = if other = key then none else m.get? other := by
  simp only [erase, get?, List.find?_filter]
  by_cases h : other = key
  · subst h
    simp
  · rw [if_neg h]
    congr 2
    funext entry
    by_cases ho : entry.1 = other
    · simp [ho, h]
    · simp [ho]

private theorem find?_eq_none_of_lt {key : String} {entries : List (String × α)}
    (before : ∀ entry ∈ entries, key < entry.1) :
    (entries.find? fun entry => entry.1 == key) = none := by
  rw [List.find?_eq_none]
  intro entry member found
  have less := before entry member
  rw [beq_iff_eq.1 found] at less
  exact String.lt_irrefl _ less

private theorem not_head_lt {x y : String × α} {xs ys : List (String × α)}
    (ascending : (y :: ys).Pairwise fun a b => a.1 < b.1)
    (alike : ∀ key, ((x :: xs).find? fun entry => entry.1 == key).map Prod.snd =
      ((y :: ys).find? fun entry => entry.1 == key).map Prod.snd) : ¬x.1 < y.1 := by
  intro less
  have before : ∀ entry ∈ y :: ys, x.1 < entry.1 := by
    intro entry member
    rcases List.mem_cons.1 member with rfl | later
    · exact less
    · exact String.lt_trans less ((List.pairwise_cons.1 ascending).1 entry later)
  have answers := alike x.1
  rw [find?_eq_none_of_lt before] at answers
  simp at answers

private theorem entries_ext :
    ∀ (xs ys : List (String × α)), (xs.Pairwise fun a b => a.1 < b.1) →
      (ys.Pairwise fun a b => a.1 < b.1) →
      (∀ key, (xs.find? fun entry => entry.1 == key).map Prod.snd =
        (ys.find? fun entry => entry.1 == key).map Prod.snd) → xs = ys
  | [], [], _, _, _ => rfl
  | [], y :: ys, _, _, alike => by
    have answers := alike y.1
    simp at answers
  | x :: xs, [], _, _, alike => by
    have answers := alike x.1
    simp at answers
  | x :: xs, y :: ys, first, second, alike => by
    have same : x.1 = y.1 := by
      apply Decidable.byContradiction
      intro apart
      have greater := lt_of_not_lt_of_ne (not_head_lt second alike) apart
      exact not_head_lt first (fun key => (alike key).symm) greater
    have value : x.2 = y.2 := by
      have answers := alike x.1
      simpa [same] using answers
    have inFirst := List.pairwise_cons.1 first
    have inSecond := List.pairwise_cons.1 second
    have rest : xs = ys := by
      apply entries_ext xs ys inFirst.2 inSecond.2
      intro key
      by_cases here : x.1 = key
      · subst here
        rw [find?_eq_none_of_lt inFirst.1, same, find?_eq_none_of_lt inSecond.1]
      · have notThere : ¬y.1 = key := same ▸ here
        have answers := alike key
        simpa [here, notThere] using answers
    rw [rest, Prod.ext same value]

/-- Two maps that answer alike are the same map. -/
theorem ext_get? {m n : TextMap α} (h : ∀ key, m.get? key = n.get? key) : m = n := by
  cases m with
  | mk xs hx =>
    cases n with
    | mk ys hy =>
      have := entries_ext xs ys hx hy h
      subst this
      rfl

end TextMap

end ProfileShell
