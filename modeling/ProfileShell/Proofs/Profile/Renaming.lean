import Mathlib.Logic.ExistsUnique
import ProfileShell.Profile.Workflow
import ProfileShell.Proofs.Record.Truthful

/-!
Creating and renaming profiles in a store that may fail.

Whichever operation of the store fails, no record is lost. A new profile is created under an
identifier that had no record, or nothing changes. A renaming that fails changes nothing either,
unless it was the removal of the old record that failed: then the profile is there under both
identifiers.
-/

set_option autoImplicit false
set_option relaxedAutoImplicit false

namespace ProfileShell.Profile

open ProfileShell.Task (Ensures)
open ProfileShell.RecordStore (Commits Truthful)

variable {σ : Type} [RecordStore σ]

def RenamedFrom (records : String → Option String) (oldId newId newName : String) (p : Profile) :
    Prop :=
  ∃ text q, records oldId = some text ∧ ofText text = .ok q ∧
    p = { q with id := newId, name := newName }

/-- The part of a renaming that comes before the removal of the old record. -/
def copyAs (oldId newId newName : String) : Task σ Profile := do
  Task.ofExcept (Record.checkIdentifier newId)
  let p ← load oldId
  if newId ≠ oldId then
    if ← RecordStore.holds newId then throw (.store (.identifierTaken newId))
  let renamed := { p with id := newId, name := newName }
  save renamed
  pure renamed

private theorem rename_eq (oldId newId newName : String) :
    (rename oldId newId newName : Task σ Profile) = (do
      let renamed ← copyAs oldId newId newName
      if newId ≠ oldId then RecordStore.remove oldId
      Task.note .info s!"renamed profile {oldId} to {newId}"
      pure renamed) := by
  unfold rename copyAs
  by_cases same : newId = oldId
  · simp only [same, ne_eq, not_true_eq_false, if_false, bind_assoc, pure_bind]
  · simp only [same, ne_eq, not_false_eq_true, if_true, bind_assoc]
    refine bind_congr fun _ => bind_congr fun p => bind_congr fun taken => ?_
    cases taken <;> simp only [Bool.false_eq_true, if_true, if_false, bind_assoc, pure_bind]

inductive RenameEnding
  | done
  | unchanged
  /-- The profile is there under both identifiers. -/
  | copied

/-- What an ending says of a renaming that is run from `s` and ends with `answer` in `t`. -/
def RenameEnding.Describes (view : σ → String → Option String) (oldId newId newName : String)
    (s : σ) (answer : Except Failure Profile) (t : σ) : RenameEnding → Prop
  | .done => ∃ p, answer = .ok p ∧ RenamedFrom (view s) oldId newId newName p ∧
      (newId = oldId ∨ view s newId = none) ∧
      view t newId = some p.toText ∧ (newId ≠ oldId → view t oldId = none) ∧
      ∀ key, key ≠ oldId → key ≠ newId → view t key = view s key
  | .unchanged => (∃ e, answer = .error e) ∧ view t = view s
  | .copied => ∃ p e, answer = .error e ∧ RenamedFrom (view s) oldId newId newName p ∧
      newId ≠ oldId ∧ view s newId = none ∧
      view t newId = some p.toText ∧ view t oldId = view s oldId ∧
      (∀ key, key ≠ oldId → key ≠ newId → view t key = view s key) ∧
      ∃ u, (copyAs oldId newId newName).Ensures s (fun copy reached => copy = .ok p ∧ reached = u) ∧
        (RecordStore.remove oldId).Ensures u fun removal reached => removal = .error e ∧ reached = t

def Copies (view : σ → String → Option String) (oldId newId newName : String) (s : σ) :
    Except Failure Profile → σ → Prop
  | .ok p, t => RenamedFrom (view s) oldId newId newName p ∧ (newId = oldId ∨ view s newId = none) ∧
      view t = Function.update (view s) newId (some p.toText)
  | .error _, t => view t = view s

section Truthful

variable {view : σ → String → Option String} (truthful : Truthful view)

include truthful

private theorem load_truthful (s : σ) (id : String) :
    (load id : Task σ Profile).Ensures s fun answer t => view t = view s ∧
      ∀ p, answer = .ok p →
        ∃ text q, view s id = some text ∧ ofText text = .ok q ∧ p = { q with id } := by
  unfold load
  refine Ensures.bind (truthful.read s id) ?_ ?_
  · rintro text t ⟨kept, told⟩
    have found : view s id = some text := told text rfl
    cases content : ofText text with
    | error e => exact Ensures.stop (w := []) rfl ⟨kept, fun p impossible => by cases impossible⟩
    | ok q =>
      refine Ensures.step (w := []) rfl ?_
      split
      all_goals
        refine ⟨kept, ?_⟩
        rintro _ ⟨⟩
        exact ⟨text, q, found, content, rfl⟩
  · rintro e t ⟨kept, -⟩
    exact ⟨kept, fun p impossible => by cases impossible⟩

theorem save_truthful (s : σ) (p : Profile) :
    (save p : Task σ Unit).Ensures s fun answer t =>
      Commits (view s) (Function.update (view s) p.id (some p.toText)) answer (view t) :=
  truthful.write s p.id p.toText

private theorem copyAs_truthful (s : σ) (oldId newId newName : String) :
    (copyAs oldId newId newName : Task σ Profile).Ensures s
      (Copies view oldId newId newName s) := by
  -- Whatever state the write starts from, it holds the records that the copy started from.
  have written : ∀ (p : Profile) (t : σ), view t = view s →
      RenamedFrom (view s) oldId newId newName p → p.id = newId →
      (newId = oldId ∨ view s newId = none) →
      (do save p; pure p : Task σ Profile).Ensures t (Copies view oldId newId newName s) := by
    intro p t kept renamed own free
    refine Ensures.bind (save_truthful truthful t p) ?_ ?_
    · intro _ u updated
      refine Ensures.pure ⟨renamed, free, ?_⟩
      rw [← kept, ← own]
      exact updated
    · intro e u refused
      exact refused.trans kept
  unfold copyAs
  cases Record.checkIdentifier newId with
  | error e => exact Ensures.stop (w := []) rfl rfl
  | ok _ =>
    refine Ensures.step (w := []) rfl (Ensures.bind (load_truthful truthful s oldId) ?_ ?_)
    · rintro p t ⟨same, loaded⟩
      obtain ⟨text, q, found, content, rfl⟩ := loaded p rfl
      have renamed : RenamedFrom (view s) oldId newId newName
          { q with id := newId, name := newName } := ⟨text, q, found, content, rfl⟩
      by_cases own : newId = oldId
      · rw [if_neg (not_not.mpr own)]
        exact written _ t same renamed rfl (Or.inl own)
      · rw [if_pos own]
        refine Ensures.bind (truthful.holds t newId) ?_ ?_
        · rintro known u ⟨unchanged, told⟩
          have known : known = (view s newId).isSome := by
            rw [← same]
            exact told known rfl
          by_cases free : view s newId = none
          · rw [if_neg (by simp [known, free])]
            exact written _ u (unchanged.trans same) renamed rfl (Or.inr free)
          · rw [if_pos (by rw [known]; exact Option.isSome_iff_ne_none.mpr free)]
            exact Ensures.stop (w := []) rfl (unchanged.trans same)
        · rintro e u ⟨unchanged, -⟩
          exact unchanged.trans same
    · rintro e t ⟨same, -⟩
      exact same

/-- How a renaming ends. -/
private theorem exists_renameEnding (s : σ) (oldId newId newName : String) :
    (rename oldId newId newName : Task σ Profile).Ensures s fun answer t =>
      ∃ ending : RenameEnding, ending.Describes view oldId newId newName s answer t := by
  rw [rename_eq]
  have copied : (copyAs oldId newId newName : Task σ Profile).Ensures s fun answer t =>
      ((copyAs oldId newId newName).Ensures s fun copy reached => copy = answer ∧ reached = t) ∧
        Copies view oldId newId newName s answer t :=
    ⟨⟨rfl, rfl⟩, copyAs_truthful truthful s oldId newId newName⟩
  refine Ensures.bind copied ?_ ?_
  · rintro p u ⟨ran, renamed, free, updated⟩
    have new : view u newId = some p.toText := by
      rw [updated, Function.update_self]
    have others : ∀ key, key ≠ newId → view u key = view s key := by
      intro key other
      rw [updated, Function.update_of_ne other]
    by_cases own : newId = oldId
    · rw [if_neg (not_not.mpr own)]
      refine Ensures.step (w := [_]) rfl (Ensures.pure ⟨.done, p, rfl, renamed, free, new, ?_, ?_⟩)
      · intro different
        exact absurd own different
      · intro key _ other
        exact others key other
    · rw [if_pos own]
      have removed : (RecordStore.remove oldId : Task σ Unit).Ensures u fun answer t =>
          ((RecordStore.remove oldId).Ensures u fun removal reached =>
            removal = answer ∧ reached = t) ∧
          Commits (view u) (Function.update (view u) oldId none) answer (view t) :=
        ⟨⟨rfl, rfl⟩, truthful.remove u oldId⟩
      refine Ensures.bind removed ?_ ?_
      · rintro ⟨⟩ t ⟨-, gone⟩
        have gone : view t = Function.update (view u) oldId none := gone
        refine Ensures.step (t := t) (w := [_]) rfl
          (Ensures.pure ⟨.done, p, rfl, renamed, free, ?_, ?_, ?_⟩)
        · rw [gone, Function.update_of_ne own, new]
        · intro _
          rw [gone, Function.update_self]
        · intro key old other
          rw [gone, Function.update_of_ne old, others key other]
      · rintro e t ⟨failed, kept⟩
        have kept : view t = view u := kept
        have absent : view s newId = none := free.resolve_left own
        refine ⟨.copied, p, e, rfl, renamed, own, absent, ?_, ?_, ?_, u, ran, failed⟩
        · rw [kept, new]
        · rw [kept, others oldId (Ne.symm own)]
        · intro key _ other
          rw [kept, others key other]
  · rintro e t ⟨-, kept⟩
    exact ⟨.unchanged, ⟨e, rfl⟩, kept⟩

private theorem create_truthful (s : σ) (id name : String) :
    (create id name : Task σ Profile).Ensures s fun answer t =>
      (answer = .ok (new id name) ∧ view s id = none ∧
        view t = Function.update (view s) id (some (new id name).toText)) ∨
      (∃ e, answer = .error e) ∧ view t = view s := by
  unfold create
  cases Record.checkIdentifier id with
  | error e => exact Ensures.stop (w := []) rfl (Or.inr ⟨⟨e, rfl⟩, rfl⟩)
  | ok _ =>
    refine Ensures.step (w := []) rfl (Ensures.bind (truthful.holds s id) ?_ ?_)
    · rintro known t ⟨same, told⟩
      have known : known = (view s id).isSome := told known rfl
      by_cases free : view s id = none
      · rw [if_neg (by simp [known, free])]
        refine Ensures.bind (save_truthful truthful t (new id name)) ?_ ?_
        · intro _ u updated
          refine Ensures.step (t := u) (w := [_]) rfl (Ensures.pure (Or.inl ⟨rfl, free, ?_⟩))
          rw [← same]
          exact updated
        · intro e u refused
          exact Or.inr ⟨⟨e, rfl⟩, refused.trans same⟩
      · rw [if_pos (by rw [known]; exact Option.isSome_iff_ne_none.mpr free)]
        exact Ensures.stop (w := []) rfl (Or.inr ⟨⟨_, rfl⟩, same⟩)
    · rintro e t ⟨same, -⟩
      exact Or.inr ⟨⟨e, rfl⟩, same⟩

end Truthful

private theorem RenameEnding.Describes.unique {view : σ → String → Option String}
    {oldId newId newName : String} {s t : σ} {answer : Except Failure Profile}
    {first second : RenameEnding}
    (one : first.Describes view oldId newId newName s answer t)
    (other : second.Describes view oldId newId newName s answer t) : first = second := by
  -- A success is told from a failure by the answer, and the failures by the new identifier.
  have apart : ¬(view t = view s ∧ ∃ p : Profile, view s newId = none ∧
      view t newId = some p.toText) := by
    rintro ⟨same, p, absent, present⟩
    rw [same, absent] at present
    cases present
  cases first <;> cases second
  case done.done => rfl
  case unchanged.unchanged => rfl
  case copied.copied => rfl
  case done.unchanged =>
    obtain ⟨p, rfl, -⟩ := one
    obtain ⟨⟨e, impossible⟩, -⟩ := other
    cases impossible
  case unchanged.done =>
    obtain ⟨p, rfl, -⟩ := other
    obtain ⟨⟨e, impossible⟩, -⟩ := one
    cases impossible
  case done.copied =>
    obtain ⟨p, rfl, -⟩ := one
    obtain ⟨q, e, impossible, -⟩ := other
    cases impossible
  case copied.done =>
    obtain ⟨p, rfl, -⟩ := other
    obtain ⟨q, e, impossible, -⟩ := one
    cases impossible
  case unchanged.copied =>
    obtain ⟨-, same⟩ := one
    obtain ⟨p, e, -, -, -, absent, present, -⟩ := other
    exact absurd ⟨same, p, absent, present⟩ apart
  case copied.unchanged =>
    obtain ⟨-, same⟩ := other
    obtain ⟨p, e, -, -, -, absent, present, -⟩ := one
    exact absurd ⟨same, p, absent, present⟩ apart

/-- Whichever operations of a truthful store fail, a renaming ends in exactly one way: it is done,
with the profile under its new identifier and name; it fails and nothing is changed; or the removal
of the old record fails, and the profile is there under both identifiers. A creation adds a record
under an identifier that had none, or it fails and nothing is changed. -/
theorem no_record_is_lost {view : σ → String → Option String} (truthful : Truthful view) (s : σ) :
    (∀ oldId newId newName,
      (rename oldId newId newName : Task σ Profile).Ensures s fun answer t =>
        ∃! ending : RenameEnding, ending.Describes view oldId newId newName s answer t) ∧
      ∀ id name, (create id name : Task σ Profile).Ensures s fun answer t =>
        (answer = .ok (new id name) ∧ view s id = none ∧
          view t = Function.update (view s) id (some (new id name).toText)) ∨
        (∃ e, answer = .error e) ∧ view t = view s := by
  refine ⟨?_, create_truthful truthful s⟩
  intro oldId newId newName
  refine (exists_renameEnding truthful s oldId newId newName).mono ?_
  rintro answer t ⟨ending, describes⟩
  exact ⟨ending, describes, fun other also => also.unique describes⟩

def unremovable : RefusingStore :=
  ⟨⟨TextMap.empty.insert "a" "\x7b\"type\":\"player_profile\",\"id\":\"a\",\"name\":\"A\"\x7d"⟩,
    [.remove]⟩

theorem no_record_is_lost_unremovable :
    (rename "a" "b" "B" : Task RefusingStore Profile).Ensures unremovable fun answer t =>
      RenameEnding.copied.Describes (fun s => s.inner.records.get?) "a" "b" "B" unremovable answer
        t := by
  have failed : ((rename "a" "b" "B").runOn unremovable).answer.isOk = false := by decide +kernel
  have both : ((rename "a" "b" "B").runOn unremovable).state.inner.records.keys = ["a", "b"] := by
    decide +kernel
  obtain ⟨ending, describes, -⟩ :=
    (no_record_is_lost RefusingStore.truthful unremovable).1 "a" "b" "B"
  cases ending with
  | done =>
    obtain ⟨p, succeeded, -⟩ := describes
    rw [succeeded] at failed
    cases failed
  | unchanged =>
    obtain ⟨-, same⟩ := describes
    have copied := TextMap.contains_keys
      ((rename "a" "b" "B").runOn unremovable).state.inner.records "b"
    have same : ((rename "a" "b" "B").runOn unremovable).state.inner.records.get? =
        unremovable.inner.records.get? := same
    rw [both, same] at copied
    exact absurd copied (by decide +kernel)
  | copied => exact describes

end ProfileShell.Profile
