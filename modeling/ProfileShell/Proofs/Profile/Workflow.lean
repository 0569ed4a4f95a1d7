import ProfileShell.Proofs.Profile.Loading

/-!
What the operations on profiles make of the memory store.

Each of them either succeeds and changes the records in one way, or fails and leaves them as they
were.
-/

set_option autoImplicit false
set_option relaxedAutoImplicit false

namespace ProfileShell.Profile

open ProfileShell.Task (Ensures)
open MemoryStore

variable (s : MemoryStore)

def suggestion (name : String) : String :=
  Record.allocate (snakeCase (Text.trim name)) s.records.keys

theorem runOn_suggestIdentifier (name : String) :
    (suggestIdentifier name : Task MemoryStore String).runOn s = ⟨.ok (suggestion s name), s, []⟩ :=
  rfl

theorem create_of_free {id : String} (valid : Record.isValidIdentifier id = true)
    (free : s.records.get? id = none) (name : String) :
    (create id name : Task MemoryStore Profile).Ensures s fun answer t =>
      answer = .ok (new id name) ∧ t = ⟨s.records.insert id (new id name).toText⟩ := by
  have absent : s.records.contains id = false := by simp [TextMap.contains, free]
  unfold create
  rw [Record.checkIdentifier_of_valid valid]
  refine Ensures.step (w := []) rfl (Ensures.step (runOn_holds s id) ?_)
  rw [absent, if_neg Bool.false_ne_true]
  exact Ensures.step (runOn_write_of_valid valid _) ⟨rfl, rfl⟩

theorem create_ensures (id name : String) :
    (create id name : Task MemoryStore Profile).Ensures s fun answer t =>
      (answer = .ok (new id name) ∧ Record.isValidIdentifier id = true ∧
        s.records.get? id = none ∧ t = ⟨s.records.insert id (new id name).toText⟩) ∨
      (∃ e, answer = .error e) ∧ t = s := by
  cases valid : Record.isValidIdentifier id with
  | false =>
    obtain ⟨fault, refused⟩ := Record.checkIdentifier_of_invalid valid
    unfold create
    rw [refused]
    exact Ensures.stop (w := []) rfl (Or.inr ⟨⟨_, rfl⟩, rfl⟩)
  | true =>
    cases present : s.records.get? id with
    | none =>
      refine (create_of_free s valid present name).mono ?_
      rintro answer t ⟨rfl, rfl⟩
      exact Or.inl ⟨rfl, rfl, rfl, rfl⟩
    | some text =>
      unfold create
      rw [Record.checkIdentifier_of_valid valid]
      refine Ensures.step (w := []) rfl (Ensures.step (runOn_holds s id) ?_)
      rw [(TextMap.contains_iff _ _).mpr ⟨text, present⟩, if_pos rfl]
      exact Ensures.stop (w := []) rfl (Or.inr ⟨⟨_, rfl⟩, rfl⟩)

/-- The profile that is loaded from a record, whatever identifier it carries. -/
def Stores (s : MemoryStore) (id : String) (p : Profile) : Prop :=
  ∃ text q, s.records.get? id = some text ∧ ofText text = .ok q ∧ p = { q with id }

variable {s} in
theorem loaded_eq_ok_iff_stores {id : String} {p : Profile} :
    loaded s id = .ok p ↔ Stores s id p := by
  rw [loaded_eq_ok_iff, Stores]
  simp only [MemoryStore.recordAt_eq_ok_iff]

theorem load_ensures (id : String) :
    (load id : Task MemoryStore Profile).Ensures s fun answer t =>
      t = s ∧ ∀ p, answer = .ok p → Stores s id p := by
  refine (load_ensures_of_browsable s.browsable id).mono ?_
  intro answer t ended
  refine ⟨ended.1, ?_⟩
  intro p found
  exact loaded_eq_ok_iff_stores.mp (ended.2.symm.trans found)

theorem list_ensures_summaries :
    (list : Task MemoryStore (List ProfileSummary)).Ensures s fun answer t =>
      t = s ∧ answer = .ok (s.records.keys.filterMap (summary? s)) := by
  have sorted : (s.records.keys.mergeSort fun a b => decide (a ≤ b)) = s.records.keys := by
    refine List.mergeSort_of_pairwise (s.records.keys_ascending.imp fun less => ?_)
    refine decide_eq_true (String.not_lt.mp fun greater => ?_)
    exact String.lt_irrefl _ (String.lt_trans less greater)
  have listed := list_ensures_of_browsable s.browsable (congrArg Run.answer (runOn_identifiers s))
  rw [sorted] at listed
  exact listed

/-- To list the profiles changes nothing and does not fail, whatever the records hold. -/
theorem list_ensures :
    (list : Task MemoryStore (List ProfileSummary)).Ensures s fun answer t =>
      t = s ∧ ∃ summaries, answer = .ok summaries := by
  refine (list_ensures_summaries s).mono ?_
  intro answer t ended
  exact ⟨ended.1, _, ended.2⟩

def moved (records : TextMap String) (oldId : String) (p : Profile) : TextMap String :=
  if p.id = oldId then records.insert p.id p.toText
  else (records.insert p.id p.toText).erase oldId

theorem get?_moved (records : TextMap String) (oldId : String) (p : Profile) (key : String) :
    (moved records oldId p).get? key =
      if key = p.id then some p.toText else if key = oldId then none else records.get? key := by
  unfold moved
  split
  · rename_i same
    rw [TextMap.get?_insert]
    by_cases here : key = p.id
    · simp [here]
    · simp [here, ← same]
  · rename_i other
    rw [TextMap.get?_erase, TextMap.get?_insert]
    by_cases here : key = p.id
    · simp [here, other]
    · simp [here]

/-- A stored profile is given a valid identifier, its own or one that is not taken. -/
theorem rename_ensures (oldId newId newName : String) :
    (rename oldId newId newName : Task MemoryStore Profile).Ensures s fun answer t =>
      (∃ p, Stores s oldId p ∧ answer = .ok { p with id := newId, name := newName } ∧
        Record.isValidIdentifier newId = true ∧
        (newId = oldId ∨ s.records.get? newId = none) ∧
        t = ⟨moved s.records oldId { p with id := newId, name := newName }⟩) ∨
      (∃ e, answer = .error e) ∧ t = s := by
  unfold rename
  cases valid : Record.isValidIdentifier newId with
  | false =>
    obtain ⟨fault, refused⟩ := Record.checkIdentifier_of_invalid valid
    rw [refused]
    exact Ensures.stop (w := []) rfl (Or.inr ⟨⟨_, rfl⟩, rfl⟩)
  | true =>
    rw [Record.checkIdentifier_of_valid valid]
    refine Ensures.step (w := []) rfl (Ensures.bind (load_ensures s oldId) ?_ ?_)
    · rintro p t ⟨rfl, loaded⟩
      have stores := loaded p rfl
      by_cases same : newId = oldId
      · simp only [same, ne_eq, not_true_eq_false, if_false]
        refine Ensures.step (runOn_write_of_valid (same ▸ valid) _) ?_
        refine Or.inl ⟨p, stores, rfl, trivial, Or.inl trivial, ?_⟩
        simp only [moved, if_true]
        rfl
      · simp only [ne_eq, same, not_false_eq_true, if_true]
        refine Ensures.step (runOn_holds t newId) ?_
        cases present : t.records.contains newId with
        | true =>
          rw [if_pos rfl]
          exact Ensures.stop (w := []) rfl (Or.inr ⟨⟨_, rfl⟩, rfl⟩)
        | false =>
          rw [if_neg Bool.false_ne_true]
          have absent : t.records.get? newId = none := by
            simpa [TextMap.contains] using present
          -- The new record lies under another identifier, so the old one is still there.
          have kept : (t.records.insert newId
              { p with id := newId, name := newName }.toText).contains oldId = true := by
            obtain ⟨text, q, found, -⟩ := stores
            rw [TextMap.contains_iff]
            exact ⟨text, by rw [TextMap.get?_insert, if_neg (Ne.symm same), found]⟩
          refine Ensures.step (runOn_write_of_valid valid _)
            (Ensures.step (runOn_remove_of_contains kept) ?_)
          refine Or.inl ⟨p, stores, rfl, trivial, Or.inr absent, ?_⟩
          simp only [moved, same, if_false]
          rfl
    · rintro e t ⟨rfl, -⟩
      exact Or.inr ⟨⟨e, rfl⟩, rfl⟩

theorem remove_ensures (id : String) :
    (remove id : Task MemoryStore Unit).Ensures s fun answer t =>
      (answer = .ok () ∧ s.records.contains id = true ∧ t = ⟨s.records.erase id⟩) ∨
      (∃ e, answer = .error e) ∧ t = s := by
  unfold remove
  cases present : s.records.contains id with
  | true =>
    exact Ensures.step (runOn_remove_of_contains present) (Or.inl ⟨rfl, rfl, rfl⟩)
  | false =>
    exact Ensures.stop (runOn_remove_of_not_contains present) (Or.inr ⟨⟨_, rfl⟩, rfl⟩)

end ProfileShell.Profile
