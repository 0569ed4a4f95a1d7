import ProfileShell.Proofs.Console.Questions

/-!
Questions take the first answer that will do, and nothing after it.

A criterion tells which answers will do, with the values that are made of them, and which are
refused, with the complaints about them. Over any input, questions meet some refused answers with
one complaint each, and then what settles them: an answer that will do, one that cannot be judged, a
reading that fails, or the end of input. The input after that is left.
-/

set_option autoImplicit false
set_option relaxedAutoImplicit false

namespace ProfileShell.Console

open HasConsole (console withConsole)
open LawfulConsole (console_withConsole withConsole_withConsole withConsole_console)
open ProfileShell.Task (Ensures)

structure Criterion (α : Type) where
  accepts : String → α → Prop
  refuses : String → String → Prop
  /-- The answer cannot be judged, for a failure. -/
  baffles : String → Failure → Prop
  exclusive : ∀ {answer value complaint}, accepts answer value → ¬refuses answer complaint

namespace Criterion

variable {α : Type}

def comap (f : String → String) (k : Criterion α) : Criterion α where
  accepts answer := k.accepts (f answer)
  refuses answer := k.refuses (f answer)
  baffles answer := k.baffles (f answer)
  exclusive := k.exclusive

/-- The judgements of an answer that the criterion allows. -/
inductive Allows (k : Criterion α) (answer : String) : Except Failure (Except String α) → Prop
  | accepted {value : α} (accepts : k.accepts answer value) : Allows k answer (.ok (.ok value))
  | refused {complaint : String} (refuses : k.refuses answer complaint) :
      Allows k answer (.ok (.error complaint))
  | baffled {e : Failure} (baffles : k.baffles answer e) : Allows k answer (.error e)

/-- The criterion of a verdict that is always reached. -/
def ofVerdict (verdict : String → Except String α) : Criterion α where
  accepts answer value := verdict answer = .ok value
  refuses answer complaint := verdict answer = .error complaint
  baffles _ _ := False
  exclusive accepted refused := by
    rw [accepted] at refused
    cases refused

/-- How questions are settled by the next input, and the input that is left then. -/
inductive Settles (k : Criterion α) :
    List Input → Except Failure (Option α) → List Input → Prop
  | accepted {answer : String} {value : α} {rest : List Input} (accepts : k.accepts answer value) :
      Settles k (.line answer :: rest) (.ok (some value)) rest
  | baffled {answer : String} {e : Failure} {rest : List Input} (baffles : k.baffles answer e) :
      Settles k (.line answer :: rest) (.error e) rest
  | failed (fault : SystemFault) (rest : List Input) :
      Settles k (.failure fault :: rest) (.error (.system fault)) rest
  | ended : Settles k [] (.ok none) []

end Criterion

structure Refusal where
  answer : String
  complaint : String

def Refusal.exchanges (r : Refusal) : List Exchange :=
  [.read answerPrompt, .say r.complaint]

/-- Questions that lead from one console to another: answers that are refused, each with one
complaint, and one more reading that settles them. -/
def Asked {α : Type} (k : Criterion α) (c : Console) (outcome : Except Failure (Option α))
    (d : Console) : Prop :=
  ∃ (refused : List Refusal) (remaining : List Input),
    c.pending = refused.map (fun r => Input.line r.answer) ++ remaining ∧
    (∀ r ∈ refused, k.refuses r.answer r.complaint) ∧
    k.Settles remaining outcome d.pending ∧
    d.transcript =
      c.transcript ++ refused.flatMap Refusal.exchanges ++ [.read answerPrompt]

variable {C : Type} [HasConsole C] {α : Type} {k : Criterion α}

def Follows (judge : String → Task C (Except String α)) (k : Criterion α) (s : C) : Prop :=
  ∀ answer c, (judge answer).Ensures (withConsole c s) fun judged t =>
    k.Allows answer judged ∧ t = withConsole c s

/-- The questions take the first answer that will do, and change nothing but the console. -/
def Takes (questions : Task C (Option α)) (k : Criterion α) (s : C) : Prop :=
  questions.Ensures s fun outcome t => ∃ d, t = withConsole d s ∧ Asked k (console s) outcome d

omit [HasConsole C] in
private theorem Asked.of_settles {c : Console} {outcome : Except Failure (Option α)}
    {rest : List Input} (settles : k.Settles c.pending outcome rest) :
    Asked k c outcome ⟨rest, c.transcript ++ [.read answerPrompt]⟩ := by
  refine ⟨[], c.pending, rfl, ?_, settles, ?_⟩
  · intro r impossible
    cases impossible
  · simp

omit [HasConsole C] in
private theorem Asked.of_refused {answer complaint : String} {rest : List Input}
    {transcript : List Exchange} {outcome : Except Failure (Option α)} {d : Console}
    (refuses : k.refuses answer complaint)
    (later : Asked k ⟨rest, transcript ++ [.read answerPrompt] ++ [.say complaint]⟩ outcome d) :
    Asked k ⟨.line answer :: rest, transcript⟩ outcome d := by
  obtain ⟨refused, remaining, pending, refusals, settles, said⟩ := later
  refine ⟨⟨answer, complaint⟩ :: refused, remaining, ?_, ?_, settles, ?_⟩
  · simpa using pending
  · exact List.forall_mem_cons.mpr ⟨refuses, refusals⟩
  · simpa [Refusal.exchanges] using said

private theorem judges_follows {judge : String → Task C (Except String α)}
    {verdict : String → Except String α} {s : C} (judges : Judges judge verdict s) :
    Follows judge (.ofVerdict verdict) s := by
  intro answer c
  refine (judges answer c).mono ?_
  rintro _ t ⟨rfl, same⟩
  refine ⟨?_, same⟩
  cases judged : verdict answer with
  | ok value => exact .accepted judged
  | error complaint => exact .refused judged

variable [LawfulConsole C]

theorem Follows.withConsole {judge : String → Task C (Except String α)} {s : C}
    (follows : Follows judge k s) (c : Console) : Follows judge k (withConsole c s) := by
  intro answer d
  rw [withConsole_withConsole]
  exact follows answer d

private theorem askWithin_takes {judge : String → Task C (Except String α)} {s : C}
    (follows : Follows judge k s) (bound : Nat)
    (enough : (console s).pending.length < bound) : Takes (askWithin judge bound) k s := by
  -- Each reading takes one input, so the bound stays above the number of those left.
  induction bound generalizing s with
  | zero => cases enough
  | succ bound ih =>
    unfold Takes askWithin
    have asked := runOn_readLine answerPrompt s
    generalize start : console s = c at asked enough ⊢
    obtain ⟨pending, transcript⟩ := c
    cases pending with
    | nil =>
      refine Ensures.step asked (Ensures.pure ⟨_, rfl, ?_⟩)
      exact Asked.of_settles .ended
    | cons input rest =>
      cases input with
      | failure fault =>
        refine Ensures.stop asked ⟨_, rfl, ?_⟩
        exact Asked.of_settles (.failed fault rest)
      | line text =>
        refine Ensures.step asked (Ensures.bind (follows text _) ?_ ?_)
        · rintro judged _ ⟨allowed, rfl⟩
          cases allowed with
          | accepted accepts =>
            refine Ensures.pure ⟨_, rfl, ?_⟩
            exact Asked.of_settles (.accepted accepts)
          | @refused complaint refuses =>
            refine Ensures.step (runOn_say complaint _) ?_
            rw [console_withConsole, withConsole_withConsole]
            refine (ih (follows.withConsole _) ?_).mono ?_
            · rw [console_withConsole]
              exact Nat.lt_of_succ_lt_succ enough
            · rintro outcome _ ⟨d, rfl, later⟩
              rw [console_withConsole] at later
              exact ⟨d, withConsole_withConsole _ _ _, later.of_refused refuses⟩
        · rintro e _ ⟨allowed, rfl⟩
          cases allowed with
          | baffled baffles => exact ⟨_, rfl, Asked.of_settles (.baffled baffles)⟩

/-- Questions take the first answer that will do. -/
theorem ask_takes {judge : String → Task C (Except String α)} {s : C}
    (follows : Follows judge k s) : Takes (ask judge) k s :=
  askWithin_takes follows (readBound s) (Nat.lt_succ_self _)

omit [HasConsole C] [LawfulConsole C] in
private theorem Asked.settle_eq {verdict : String → Except String α} {c d : Console}
    {outcome : Except Failure (Option α)} (asked : Asked (.ofVerdict verdict) c outcome d) :
    (outcome, d.pending) = settle verdict c.pending := by
  obtain ⟨refused, remaining, pending, refusals, settles, -⟩ := asked
  have complaints : ∀ text ∈ refused.map Refusal.answer,
      ∃ complaint, verdict text = .error complaint := by
    intro text member
    obtain ⟨r, given, rfl⟩ := List.mem_map.mp member
    exact ⟨r.complaint, refusals r given⟩
  have passed : settle verdict c.pending = settle verdict remaining := by
    rw [pending, ← settle_refused complaints remaining, List.map_map]
    rfl
  rw [passed]
  generalize d.pending = left at settles
  cases settles with
  | accepted accepts => exact (settle_accepted accepts left).symm
  | baffled baffles => cases baffles
  | failed fault rest => rfl
  | ended => rfl

theorem ask_settles {judge : String → Task C (Except String α)}
    {verdict : String → Except String α} {s : C} (judges : Judges judge verdict s) :
    (ask judge).Ensures s fun answer t =>
      ∃ c, t = withConsole c s ∧ (answer, c.pending) = settle verdict (console s).pending := by
  refine (ask_takes (judges_follows judges)).mono ?_
  rintro answer t ⟨c, same, asked⟩
  exact ⟨c, same, asked.settle_eq⟩

def nonblank : Criterion String where
  accepts answer text := text = Text.trim answer ∧ text ≠ ""
  refuses answer complaint := Text.trim answer = "" ∧ complaint = "Invalid format, try again."
  baffles _ _ := False
  exclusive := by
    rintro answer _ complaint ⟨rfl, nonempty⟩ ⟨empty, -⟩
    exact nonempty empty

def yesOrNo : Criterion Bool where
  accepts answer yes :=
    Text.lowerAscii (Text.trim answer) ∈ if yes then ["y", "yes"] else ["", "n", "no"]
  refuses answer complaint :=
    Text.lowerAscii (Text.trim answer) ∉ ["y", "yes", "", "n", "no"] ∧
      complaint = "Invalid format, try again."
  baffles _ _ := False
  exclusive := by
    rintro answer yes complaint accepted ⟨neither, -⟩
    cases yes <;> simp_all

private theorem nonblank_allows (answer : String) :
    nonblank.Allows answer (.ok (judgeNonblank answer)) := by
  unfold judgeNonblank
  simp only [String.isEmpty_iff]
  by_cases empty : Text.trim answer = ""
  · rw [if_pos empty]
    exact .refused ⟨empty, rfl⟩
  · rw [if_neg empty]
    exact .accepted ⟨rfl, empty⟩

private theorem yesOrNo_allows (answer : String) :
    yesOrNo.Allows answer (.ok (judgeYesNo answer)) := by
  unfold judgeYesNo
  generalize word : Text.lowerAscii (Text.trim answer) = w
  by_cases yes : w = "y" ∨ w = "yes"
  · simp only [if_pos yes]
    exact .accepted (by simpa [yesOrNo, word] using yes)
  · by_cases no : w = "" ∨ w = "n" ∨ w = "no"
    · simp only [if_neg yes, if_pos no]
      exact .accepted (by simpa [yesOrNo, word] using no)
    · simp only [if_neg yes, if_neg no]
      refine .refused ⟨?_, rfl⟩
      rw [word]
      simp_all

omit [LawfulConsole C] in
private theorem follows_pure (verdict : String → Except String α)
    (allows : ∀ answer, k.Allows answer (.ok (verdict answer))) (s : C) :
    Follows (fun answer => pure (verdict answer)) k s :=
  fun answer _ => Ensures.pure ⟨allows answer, rfl⟩

theorem askNonblank_takes (s : C) : Takes askNonblank nonblank s := by
  unfold askNonblank
  exact ask_takes (follows_pure judgeNonblank nonblank_allows s)

theorem askYesNo_takes (s : C) : Takes askYesNo yesOrNo s := by
  unfold askYesNo
  exact ask_takes (follows_pure judgeYesNo yesOrNo_allows s)

end ProfileShell.Console
