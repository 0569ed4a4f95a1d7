import ProfileShell.Profile.Workflow
import ProfileShell.Proofs.Record.Browsing

/-!
What is loaded from a store, and which profiles are summarized.

What a store answers for an identifier determines what is loaded under it. In a store that stays as
it is when it is looked at, to summarize some identifiers is therefore to pick out those under which
a profile is loaded; no record that cannot be read or understood stops it.
-/

set_option autoImplicit false
set_option relaxedAutoImplicit false

namespace ProfileShell.Profile

open ProfileShell.Task (Ensures)
open RecordStore (Browsable recordAt)

variable {σ : Type} [RecordStore σ] {s : σ} {id : String} {p : Profile}

def loaded (s : σ) (id : String) : Except Failure Profile :=
  ((load id : Task σ Profile).runOn s).answer

def ofRecord (id text : String) : Except Failure Profile :=
  (ofText text).map fun p => { p with id }

private theorem exists_runOn_load (s : σ) (id : String) :
    ∃ log, (load id : Task σ Profile).runOn s =
      ⟨(recordAt s id).bind (ofRecord id), ((RecordStore.read id : Task σ String).runOn s).state,
        log⟩ := by
  rw [recordAt]
  cases ran : (RecordStore.read id : Task σ String).runOn s with
  | mk answer t log =>
    cases answer with
    | error e => exact ⟨log, by rw [load, Task.runOn_bind_of_error ran]; rfl⟩
    | ok text =>
      rw [load, Task.runOn_bind_of_ok ran]
      show ∃ log, _ = Run.mk (ofRecord id text) t log
      rw [ofRecord]
      cases ofText text with
      | error e => exact ⟨_, rfl⟩
      | ok p =>
        -- A profile that carries another identifier is loaded after a warning.
        rw [Task.runOn_ofExcept_bind]
        split <;> exact ⟨_, rfl⟩

private theorem loaded_eq (s : σ) (id : String) :
    loaded s id = (recordAt s id).bind (ofRecord id) := by
  obtain ⟨log, ran⟩ := exists_runOn_load s id
  rw [loaded, ran]

theorem loaded_eq_ok_iff : loaded s id = .ok p ↔
    ∃ text q, recordAt s id = .ok text ∧ ofText text = .ok q ∧ p = { q with id } := by
  rw [loaded_eq]
  constructor
  · intro same
    cases read : recordAt s id with
    | error e =>
      rw [read] at same
      cases same
    | ok text =>
      rw [read] at same
      cases content : ofText text with
      | error e => simp [Except.bind, ofRecord, content, Except.map] at same
      | ok q =>
        have renamed : { q with id } = p := by
          simpa [Except.bind, ofRecord, content, Except.map] using same
        exact ⟨text, q, rfl, content, renamed.symm⟩
  · intro found
    obtain ⟨text, q, read, content, rfl⟩ := found
    rw [read, Except.bind, ofRecord, content]
    rfl

/-- Whatever identifier a record carries, its profile is loaded under that of the record. -/
theorem id_eq_of_loaded (found : loaded s id = .ok p) : p.id = id := by
  obtain ⟨text, q, -, -, rfl⟩ := loaded_eq_ok_iff.mp found
  rfl

def summary? (s : σ) (id : String) : Option ProfileSummary :=
  (loaded s id).toOption.map fun p => ⟨id, p.name⟩

theorem summary?_eq_some_iff {summary : ProfileSummary} :
    summary? s id = some summary ↔
      summary.id = id ∧ ∃ p, loaded s id = .ok p ∧ p.name = summary.name := by
  rw [summary?]
  obtain ⟨own, name⟩ := summary
  cases loaded s id with
  | error e => simp [Except.toOption]
  | ok p => simp [Except.toOption, eq_comm]

theorem map_id_filterMap_summary? (s : σ) (ids : List String) :
    (ids.filterMap (summary? s)).map ProfileSummary.id =
      ids.filter fun id => (summary? s id).isSome := by
  induction ids with
  | nil => rfl
  | cons id ids ih =>
    cases found : summary? s id with
    | none => simp [found, ih]
    | some summary =>
      have own : summary.id = id := (summary?_eq_some_iff.mp found).1
      simp [found, ih, own]

theorem load_ensures_of_browsable (browsable : Browsable s) (id : String) :
    (load id : Task σ Profile).Ensures s fun answer t => t = s ∧ answer = loaded s id := by
  obtain ⟨log, ran⟩ := exists_runOn_load s id
  refine ⟨?_, rfl⟩
  rw [ran]
  exact browsable.reading id

private theorem summarize_ensures (browsable : Browsable s) (ids : List String) :
    (summarize ids : Task σ (List ProfileSummary)).Ensures s fun answer t =>
      t = s ∧ answer = .ok (ids.filterMap (summary? s)) := by
  induction ids with
  | nil => exact Ensures.pure ⟨rfl, rfl⟩
  | cons id ids ih =>
    have attempted : (Task.attempt (load id) : Task σ (Except Failure Profile)).Ensures s
        fun answer t => t = s ∧ answer = .ok (loaded s id) := by
      refine Ensures.attempt ((load_ensures_of_browsable browsable id).mono ?_)
      intro answer t ended
      exact ⟨ended.1, congrArg Except.ok ended.2⟩
    rw [summarize]
    refine Ensures.bind attempted ?_ ?_
    · intro outcome t ended
      obtain ⟨rfl, same⟩ := ended
      have same : outcome = loaded t id := Except.ok.inj same
      rw [List.filterMap_cons, summary?, ← same]
      cases outcome with
      | error e => exact Ensures.step (w := [_]) rfl ih
      | ok p =>
        refine Ensures.bind ih ?_ ?_
        · intro rest u ended
          obtain ⟨rfl, same⟩ := ended
          cases same
          exact Ensures.pure ⟨rfl, rfl⟩
        · intro e u impossible
          cases impossible.2
    · intro e t impossible
      cases impossible.2

theorem pairwise_le_mergeSort (ids : List String) :
    (ids.mergeSort fun a b => decide (a ≤ b)).Pairwise fun a b => a ≤ b := by
  have transitive (a b c : String) (first : decide (a ≤ b) = true)
      (second : decide (b ≤ c) = true) : decide (a ≤ c) = true :=
    decide_eq_true (String.le_trans (of_decide_eq_true first) (of_decide_eq_true second))
  have total (a b : String) : (decide (a ≤ b) || decide (b ≤ a)) = true := by
    simpa using String.le_total a b
  exact (List.pairwise_mergeSort transitive total ids).imp of_decide_eq_true

theorem list_ensures_of_browsable (browsable : Browsable s) {ids : List String}
    (listed : ((RecordStore.identifiers : Task σ (List String)).runOn s).answer = .ok ids) :
    (list : Task σ (List ProfileSummary)).Ensures s fun answer t =>
      t = s ∧ answer =
        .ok ((ids.mergeSort fun a b => decide (a ≤ b)).filterMap (summary? s)) := by
  have found : (RecordStore.identifiers : Task σ (List String)).Ensures s fun answer t =>
      answer = .ok ids ∧ t = s := ⟨listed, browsable.listing⟩
  rw [list]
  apply Ensures.bind_of_answer found
  intro t same
  subst same
  exact summarize_ensures browsable _

end ProfileShell.Profile
