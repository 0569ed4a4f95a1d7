import ProfileShell.Console.Question
import ProfileShell.Proofs.Action.Invariance

/-!
What reading, printing and asking make of a console.

They change nothing but the console. A question comes to what its judge says of the first answer
that will do, to the fault of a reading that fails before that, or to nothing at the end of input,
and takes off the input up to there.
-/

set_option autoImplicit false
set_option relaxedAutoImplicit false

namespace ProfileShell

/-- A console that can be put in place of another. -/
class LawfulConsole (C : Type) [HasConsole C] : Prop where
  console_withConsole : ∀ (console : Console) (s : C),
    HasConsole.console (HasConsole.withConsole console s) = console
  withConsole_withConsole : ∀ (console other : Console) (s : C),
    HasConsole.withConsole console (HasConsole.withConsole other s) =
      HasConsole.withConsole console s
  withConsole_console : ∀ s : C, HasConsole.withConsole (HasConsole.console s) s = s

instance : LawfulConsole Console where
  console_withConsole _ _ := rfl
  withConsole_withConsole _ _ _ := rfl
  withConsole_console _ := rfl

namespace Console

open HasConsole (console withConsole)
open LawfulConsole (console_withConsole withConsole_withConsole withConsole_console)

def nextAnswer : List Input → Except Failure (Option String)
  | [] => .ok none
  | .line text :: _ => .ok (some text)
  | .failure fault :: _ => .error (.system fault)

def afterReading (prompt : String) (c : Console) : Console :=
  ⟨c.pending.tail, c.transcript ++ [.read prompt]⟩

/-- What questions come to over some input, and the input that they leave. -/
def settle {α : Type} (verdict : String → Except String α) :
    List Input → Except Failure (Option α) × List Input
  | [] => (.ok none, [])
  | .failure fault :: rest => (.error (.system fault), rest)
  | .line text :: rest =>
    match verdict text with
    | .ok value => (.ok (some value), rest)
    | .error _ => settle verdict rest

section Settle

variable {α : Type} {verdict : String → Except String α}

theorem settle_refused {refused : List String}
    (refusals : ∀ text ∈ refused, ∃ complaint, verdict text = .error complaint)
    (later : List Input) :
    settle verdict (refused.map Input.line ++ later) = settle verdict later := by
  induction refused with
  | nil => rfl
  | cons text refused ih =>
    obtain ⟨⟨complaint, refusal⟩, refusals⟩ := List.forall_mem_cons.mp refusals
    simp only [List.map_cons, List.cons_append, settle, refusal]
    exact ih refusals

theorem settle_accepted {answer : String} {value : α} (accepted : verdict answer = .ok value)
    (rest : List Input) : settle verdict (.line answer :: rest) = (.ok (some value), rest) := by
  simp only [settle, accepted]

/-- Questions come to a value if the judge makes it of an answer and has refused the answers before
that one. -/
theorem settle_eq_ok_some_iff (verdict : String → Except String α)
    (pending rest : List Input) (value : α) :
    settle verdict pending = (.ok (some value), rest) ↔
      ∃ (refused : List String) (answer : String),
        pending = refused.map Input.line ++ .line answer :: rest ∧
        (∀ text ∈ refused, ∃ complaint, verdict text = .error complaint) ∧
        verdict answer = .ok value := by
  constructor
  · intro settled
    induction pending with
    | nil => cases settled
    | cons input pending ih =>
      cases input with
      | failure fault => cases settled
      | line text =>
        cases judged : verdict text with
        | ok found =>
          rw [settle_accepted judged] at settled
          cases settled
          exact ⟨[], text, rfl, by simp, judged⟩
        | error complaint =>
          simp only [settle, judged] at settled
          obtain ⟨refused, answer, rfl, refusals, accepted⟩ := ih settled
          exact ⟨text :: refused, answer, rfl,
            List.forall_mem_cons.mpr ⟨⟨complaint, judged⟩, refusals⟩, accepted⟩
  · rintro ⟨refused, answer, rfl, refusals, accepted⟩
    rw [settle_refused refusals, settle_accepted accepted]

end Settle

variable {C : Type} [HasConsole C] {α : Type}

theorem runOn_say (line : String) (s : C) :
    (say line : Task C Unit).runOn s =
      ⟨.ok (), withConsole ((console s).record (.say line)) s, []⟩ := rfl

theorem runOn_readLine (prompt : String) (s : C) :
    (readLine prompt : Task C (Option String)).runOn s =
      ⟨nextAnswer (console s).pending, withConsole (afterReading prompt (console s)) s, []⟩ := by
  unfold readLine
  rw [Task.runOn_within]
  generalize console s = c
  obtain ⟨pending, transcript⟩ := c
  cases pending with
  | nil => rfl
  | cons input rest => cases input <;> rfl

def Indifferent (I : C → Prop) : Prop :=
  ∀ c s, I s → I (withConsole c s)

variable {I : C → Prop}

theorem say_keeps (indifferent : Indifferent I) (line : String) :
    (say line : Task C Unit).Keeps I fun _ => True := by
  intro s holds
  unfold Task.Ensures
  rw [runOn_say]
  exact ⟨indifferent _ s holds, fun _ _ => trivial⟩

theorem sayAll_keeps (indifferent : Indifferent I) (lines : List String) :
    (sayAll lines : Task C Unit).Keeps I fun _ => True := by
  induction lines with
  | nil => exact Task.Keeps.pure trivial
  | cons line lines ih => exact Task.Keeps.bind (say_keeps indifferent line) fun _ _ => ih

theorem readLine_keeps (indifferent : Indifferent I) (prompt : String) :
    (readLine prompt : Task C (Option String)).Keeps I fun _ => True := by
  intro s holds
  unfold Task.Ensures
  rw [runOn_readLine]
  exact ⟨indifferent _ s holds, fun _ _ => trivial⟩

theorem ask_keeps (indifferent : Indifferent I) {judge : String → Task C (Except String α)}
    {P : α → Prop} (judged : ∀ answer, (judge answer).Keeps I fun verdict =>
      ∀ value, verdict = .ok value → P value) :
    (ask judge).Keeps I fun answer => ∀ value, answer = some value → P value := by
  have within : ∀ bound, (askWithin judge bound).Keeps I fun answer =>
      ∀ value, answer = some value → P value := by
    intro bound
    induction bound with
    | zero => exact Task.Keeps.pure fun _ impossible => by cases impossible
    | succ bound ih =>
      unfold askWithin
      refine Task.Keeps.bind (readLine_keeps indifferent answerPrompt) fun answer _ => ?_
      cases answer with
      | none => exact Task.Keeps.pure fun _ impossible => by cases impossible
      | some text =>
        refine Task.Keeps.bind (judged text) fun verdict found => ?_
        cases verdict with
        | ok value =>
          refine Task.Keeps.pure ?_
          rintro _ ⟨⟩
          exact found value rfl
        | error complaint =>
          exact Task.Keeps.bind (say_keeps indifferent complaint) fun _ _ => ih
  exact Task.Keeps.bind Task.Keeps.get fun s _ => within (readBound s)

def Judges (judge : String → Task C (Except String α)) (verdict : String → Except String α)
    (s : C) : Prop :=
  ∀ answer c, (judge answer).Ensures (withConsole c s) fun judged t =>
    judged = .ok (verdict answer) ∧ t = withConsole c s

theorem judges_pure (verdict : String → Except String α) (s : C) :
    Judges (fun answer => pure (verdict answer)) verdict s :=
  fun _ _ => Task.Ensures.pure ⟨rfl, rfl⟩

end Console

end ProfileShell
