import ProfileShell.Proofs.Console.Questions

/-!
How much of its input a conversation takes.

A reading takes one line off the input, or it is idle: the input has ended. What was read and what
is left add up to the input and the idle readings, and after an idle reading nothing is left. A loop
that takes a line in every round ends with its input, so the bound on the number of its rounds is
never what ends it.
-/

set_option autoImplicit false
set_option relaxedAutoImplicit false

namespace ProfileShell

open HasConsole (console withConsole)
open LawfulConsole (console_withConsole)

def Exchange.isRead : Exchange → Bool
  | .read _ => true
  | .say _ => false

namespace Console

def readCount (c : Console) : Nat :=
  c.transcript.countP Exchange.isRead

/-- A conversation that leads from one console to another, with so many readings after the end of
input. -/
structure Advances (c d : Console) (idle : Nat) : Prop where
  said : c.transcript <+: d.transcript
  left : d.pending <:+ c.pending
  balance : d.readCount + d.pending.length = c.readCount + c.pending.length + idle
  ended : 0 < idle → d.pending = []

namespace Advances

variable {c d e : Console} {i j : Nat}

theorem refl (c : Console) : Advances c c 0 where
  said := List.prefix_refl _
  left := List.suffix_refl _
  balance := rfl
  ended impossible := absurd impossible (Nat.lt_irrefl 0)

theorem trans (first : Advances c d i) (second : Advances d e j) : Advances c e (i + j) where
  said := first.said.trans second.said
  left := second.left.trans first.left
  balance := by
    have before := first.balance
    have after := second.balance
    omega
  ended idle := by
    by_cases later : 0 < j
    · exact second.ended later
    · have ended := first.ended (by omega)
      have left := second.left
      rw [ended] at left
      exact List.suffix_nil.mp left

private theorem say (c : Console) (line : String) : Advances c (c.record (.say line)) 0 where
  said := List.prefix_append _ _
  left := List.suffix_refl _
  balance := by simp [readCount, record, Exchange.isRead]
  ended impossible := absurd impossible (Nat.lt_irrefl 0)

theorem length_le (advances : Advances c d i) : d.pending.length ≤ c.pending.length :=
  advances.left.length_le

theorem countP_isRead_le (advances : Advances c d i) :
    ∃ events, d.transcript = c.transcript ++ events ∧
      events.countP Exchange.isRead ≤ c.pending.length + i := by
  obtain ⟨events, same⟩ := advances.said
  refine ⟨events, same.symm, ?_⟩
  have balance := advances.balance
  unfold readCount at balance
  rw [← same, List.countP_append] at balance
  omega

theorem idle_eq_zero (advances : Advances c d i) (more : nextAnswer d.pending ≠ .ok none) :
    i = 0 := by
  apply Nat.eq_zero_of_not_pos
  intro idle
  have ended := advances.ended idle
  rw [ended] at more
  exact more rfl

end Advances

/-- The readings that an answer tells of to have been idle. -/
def idleOf {α : Type} : Except Failure (Option α) → Nat
  | .ok none => 1
  | .ok (some _) => 0
  | .error _ => 0

private theorem advances_afterReading (prompt : String) (c : Console) :
    Advances c (afterReading prompt c) (idleOf (nextAnswer c.pending)) where
  said := List.prefix_append _ _
  left := List.tail_suffix _
  balance := by
    obtain ⟨pending, transcript⟩ := c
    have counted : (afterReading prompt ⟨pending, transcript⟩).readCount =
        readCount ⟨pending, transcript⟩ + 1 := by
      simp [readCount, afterReading, Exchange.isRead]
    rw [counted]
    cases pending with
    | nil => rfl
    | cons input rest =>
      simp only [afterReading, List.tail_cons, List.length_cons]
      cases input <;> simp only [nextAnswer, idleOf] <;> omega
  ended idle := by
    obtain ⟨pending, transcript⟩ := c
    cases pending with
    | nil => rfl
    | cons input rest => cases input <;> exact absurd idle (Nat.lt_irrefl 0)

end Console

namespace Task

open Console (Advances idleOf nextAnswer)

variable {C : Type} [HasConsole C] {α β : Type}

/-- Whatever context it starts from, the task advances its console, and its answer and the number of
idle readings have the property `P`. -/
def Consumes (x : Task C α) (P : Except Failure α → Nat → Prop) : Prop :=
  ∀ s, x.Ensures s fun answer t => ∃ idle, Advances (console s) (console t) idle ∧ P answer idle

def Still (x : Task C α) : Prop :=
  x.Consumes fun _ idle => idle = 0

namespace Consumes

variable {P Q : Except Failure α → Nat → Prop}

theorem mono {x : Task C α} (consumes : x.Consumes P)
    (weaken : ∀ answer idle, P answer idle → Q answer idle) : x.Consumes Q := by
  intro s
  refine (consumes s).mono ?_
  rintro answer t ⟨idle, advances, found⟩
  exact ⟨idle, advances, weaken answer idle found⟩

theorem pure {a : α} (h : P (.ok a) 0) : Consumes (Pure.pure a : Task C α) P :=
  fun _ => Ensures.pure ⟨0, Advances.refl _, h⟩

private theorem throw {e : Failure} (h : P (.error e) 0) :
    Consumes (MonadExcept.throw e : Task C α) P :=
  fun _ => Ensures.throw ⟨0, Advances.refl _, h⟩

theorem bind {R : Except Failure β → Nat → Prop} {x : Task C β} {f : β → Task C α}
    (first : x.Consumes R)
    (second : ∀ b i, R (.ok b) i → (f b).Consumes fun answer j => P answer (i + j))
    (failed : ∀ e i, R (.error e) i → P (.error e) i) : Consumes (x >>= f) P := by
  intro s
  refine Ensures.bind (first s) ?_ ?_
  · rintro b t ⟨i, before, found⟩
    refine (second b i found t).mono ?_
    rintro answer u ⟨j, after, holds⟩
    exact ⟨i + j, before.trans after, holds⟩
  · rintro e t ⟨i, before, found⟩
    exact ⟨i, before, failed e i found⟩

theorem bind_still {x : Task C β} {f : β → Task C α} (still : x.Still)
    (next : ∀ b, (f b).Consumes P) (failed : ∀ e, P (.error e) 0) : Consumes (x >>= f) P := by
  refine bind still ?_ ?_
  · rintro b _ rfl
    simpa only [Nat.zero_add] using next b
  · rintro e _ rfl
    exact failed e

theorem bind_asked {x : Task C (Option β)} {f : Option β → Task C α}
    (asks : x.Consumes fun answer idle => idle = idleOf answer)
    (unanswered : (f none).Consumes fun answer idle => P answer (1 + idle))
    (answered : ∀ b, (f (some b)).Consumes P) (failed : ∀ e, P (.error e) 0) :
    Consumes (x >>= f) P := by
  refine bind asks ?_ ?_
  · rintro (_ | b) _ rfl
    · exact unanswered
    · simpa only [idleOf, Nat.zero_add] using answered b
  · rintro e _ rfl
    exact failed e

end Consumes

namespace Still

theorem pure (a : α) : (Pure.pure a : Task C α).Still :=
  Consumes.pure rfl

theorem throw (e : Failure) : (MonadExcept.throw e : Task C α).Still :=
  Consumes.throw rfl

theorem bind {x : Task C β} {f : β → Task C α} (first : x.Still) (second : ∀ b, (f b).Still) :
    Still (x >>= f) :=
  Consumes.bind_still first second fun _ => rfl

theorem of_console {x : Task C α} (same : ∀ s, console (x.runOn s).state = console s) :
    x.Still := by
  intro s
  refine ⟨0, ?_, rfl⟩
  rw [same]
  exact Advances.refl _

theorem note (level : Level) (text : String) : (Task.note level text : Task C Unit).Still :=
  of_console fun _ => rfl

theorem get : (MonadState.get : Task C C).Still :=
  of_console fun _ => rfl

theorem attempt {x : Task C α} (still : x.Still) : (Task.attempt x).Still := by
  intro s
  exact Ensures.attempt (still s)

end Still

end Task

theorem Task.runOn_bind_congr {C α β : Type} {x : Task C β} {f g : β → Task C α} {s : C}
    (same : x.Ensures s fun answer t => ∀ b, answer = .ok b → (f b).runOn t = (g b).runOn t) :
    (x >>= f).runOn s = (x >>= g).runOn s := by
  change Action.run (x.run >>= ExceptT.bindCont f) s = Action.run (x.run >>= ExceptT.bindCont g) s
  rw [Action.run_bind, Action.run_bind]
  unfold Task.Ensures Task.runOn at same
  cases answer : (Action.run x.run s).answer with
  | error e => rfl
  | ok b =>
    have next : Action.run (f b) (Action.run x.run s).state =
        Action.run (g b) (Action.run x.run s).state := same b answer
    simp only [ExceptT.bindCont]
    rw [next]

namespace Console

open ProfileShell.Task (Consumes Still Ensures)

variable {C : Type} [HasConsole C] {α : Type}

def heard (prompt : String) (s : C) : C :=
  withConsole (afterReading prompt (console s)) s

def said (line : String) (s : C) : C :=
  withConsole ((console s).record (.say line)) s

private theorem say_ensures (line : String) (s : C) :
    (say line : Task C Unit).Ensures s fun answer t => answer = .ok () ∧ t = said line s :=
  ⟨rfl, rfl⟩

theorem sayAll_ensures (lines : List String) (s : C) :
    (sayAll lines : Task C Unit).Ensures s fun answer t =>
      answer = .ok () ∧ t = lines.foldl (fun s line => said line s) s := by
  induction lines generalizing s with
  | nil => exact Ensures.pure ⟨rfl, rfl⟩
  | cons line lines ih =>
    exact Ensures.step (t := said line s) (w := []) rfl (ih (said line s))

theorem readLine_ensures (prompt : String) (s : C) :
    (readLine prompt : Task C (Option String)).Ensures s fun answer t =>
      answer = nextAnswer (console s).pending ∧ t = heard prompt s := by
  unfold Ensures
  rw [runOn_readLine]
  exact ⟨rfl, rfl⟩

variable [LawfulConsole C]

private theorem console_heard (prompt : String) (s : C) :
    console (heard prompt s) = afterReading prompt (console s) :=
  console_withConsole _ s

private theorem console_said (line : String) (s : C) :
    console (said line s) = (console s).record (.say line) :=
  console_withConsole _ s

theorem advances_heard (prompt : String) (s : C) :
    Advances (console s) (console (heard prompt s)) (idleOf (nextAnswer (console s).pending)) := by
  rw [console_heard]
  exact advances_afterReading prompt (console s)

theorem advances_said (line : String) (s : C) : Advances (console s) (console (said line s)) 0 := by
  rw [console_said]
  exact Advances.say _ line

theorem advances_saidAll (lines : List String) (s : C) :
    Advances (console s) (console (lines.foldl (fun s line => said line s) s)) 0 := by
  induction lines generalizing s with
  | nil => exact Advances.refl _
  | cons line lines ih => exact (advances_said line s).trans (ih (said line s))

theorem length_heard_lt (prompt : String) {s : C} {line : String}
    (answered : nextAnswer (console s).pending = .ok (some line)) :
    (console (heard prompt s)).pending.length < (console s).pending.length := by
  rw [console_heard]
  cases pending : (console s).pending with
  | nil =>
    rw [pending] at answered
    cases answered
  | cons input rest =>
    simp only [afterReading, pending, List.tail_cons, List.length_cons]
    exact Nat.lt_succ_self _

theorem say_still (line : String) : (say line : Task C Unit).Still := by
  intro s
  refine (say_ensures line s).mono ?_
  rintro _ _ ⟨-, rfl⟩
  exact ⟨0, advances_said line s, rfl⟩

section Rounds

/-- What a round does depends on what comes after it only where that has less input. -/
def TakesInput (round : Task C α → Task C α) : Prop :=
  ∀ (x y : Task C α) (s : C),
    (∀ t, (console t).pending.length < (console s).pending.length → x.runOn t = y.runOn t) →
      (round x).runOn s = (round y).runOn s

variable {round : Task C α → Task C α} {loop : Nat → Task C α}

omit [LawfulConsole C] in
private theorem runOn_bounded (takes : TakesInput round) (next : ∀ n, loop (n + 1) = round (loop n))
    {n m : Nat} {s : C} (enough : (console s).pending.length < n)
    (alsoEnough : (console s).pending.length < m) : (loop n).runOn s = (loop m).runOn s := by
  induction n generalizing m s with
  | zero => exact absurd enough (Nat.not_lt_zero _)
  | succ n ih =>
    cases m with
    | zero => exact absurd alsoEnough (Nat.not_lt_zero _)
    | succ m =>
      rw [next, next]
      apply takes
      intro t fewer
      exact ih (by omega) (by omega)

omit [LawfulConsole C] in
/-- A loop whose rounds are bounded by its input is one round, after which it goes on unbounded. -/
theorem bounded_eq_round (takes : TakesInput round) (next : ∀ n, loop (n + 1) = round (loop n)) :
    (do loop (readBound (← get)) : Task C α) = round (do loop (readBound (← get))) := by
  funext s
  change (loop (readBound s)).runOn s = _
  rw [readBound, next]
  apply takes
  intro t fewer
  change _ = (loop (readBound t)).runOn t
  exact runOn_bounded takes next fewer (Nat.lt_succ_self _)

theorem takesInput_of_readLine {prompt : String}
    {next : Task C α → Option String → Task C α}
    (ended : ∀ x y, next x none = next y none)
    (lines : ∀ (x y : Task C α) (line : String) (s : C),
      (∀ t, (console t).pending.length ≤ (console s).pending.length → x.runOn t = y.runOn t) →
        (next x (some line)).runOn s = (next y (some line)).runOn s) :
    TakesInput fun again => readLine prompt >>= next again := by
  intro x y s agree
  apply Task.runOn_bind_congr
  refine (readLine_ensures prompt s).mono ?_
  rintro _ _ ⟨answered, rfl⟩ answer rfl
  cases answer with
  | none => rw [ended x y]
  | some line =>
    have fewer := length_heard_lt prompt answered.symm
    apply lines
    intro t notMore
    exact agree t (by omega)

end Rounds

section Questions

variable {judge : String → Task C (Except String α)}

def askRound (judge : String → Task C (Except String α)) (again : Task C (Option α)) :
    Task C (Option α) := do
  match ← readLine answerPrompt with
  | none => pure none
  | some answer =>
    match ← judge answer with
    | .ok value => pure (some value)
    | .error complaint =>
      say complaint
      again

private theorem askRound_takesInput (still : ∀ answer, (judge answer).Still) :
    TakesInput (askRound judge) := by
  refine takesInput_of_readLine (fun _ _ => rfl) ?_
  intro x y answer s agree
  apply Task.runOn_bind_congr
  refine (still answer s).mono ?_
  rintro _ t ⟨idle, advances, -⟩ verdict rfl
  cases verdict with
  | ok value => rfl
  | error complaint =>
    apply Task.runOn_bind_congr
    refine (say_ensures complaint t).mono ?_
    rintro _ _ ⟨-, rfl⟩ _ _
    apply agree
    rw [console_said]
    exact advances.length_le

/-- Questions are asked until one is answered: the bound on them is never what ends them. -/
theorem ask_eq (still : ∀ answer, (judge answer).Still) : ask judge = askRound judge (ask judge) :=
  bounded_eq_round (askRound_takesInput still) fun _ => rfl

private theorem askWithin_advances (still : ∀ answer, (judge answer).Still) (bound : Nat) {s : C}
    (enough : (console s).pending.length < bound) :
    (askWithin judge bound).Ensures s fun answer t =>
      Advances (console s) (console t) (idleOf answer) := by
  induction bound generalizing s with
  | zero => exact absurd enough (Nat.not_lt_zero _)
  | succ bound ih =>
    have read := advances_heard answerPrompt s
    unfold askWithin
    refine Ensures.bind (readLine_ensures answerPrompt s) ?_ ?_
    · rintro answer _ ⟨answered, rfl⟩
      rw [← answered] at read
      cases answer with
      | none => exact Ensures.pure read
      | some text =>
        have fewer := length_heard_lt answerPrompt answered.symm
        refine Ensures.bind (still text _) ?_ ?_
        · rintro verdict t ⟨_, judged, rfl⟩
          have sofar := read.trans judged
          cases verdict with
          | ok value => exact Ensures.pure sofar
          | error complaint =>
            have printed := sofar.trans (advances_said complaint t)
            have left := judged.length_le
            have enoughLeft : (console (said complaint t)).pending.length < bound := by
              rw [console_said]
              show (console t).pending.length < bound
              omega
            refine Ensures.step (t := said complaint t) (w := []) rfl ((ih enoughLeft).mono ?_)
            intro answer u later
            have all := printed.trans later
            simpa only [idleOf, Nat.zero_add] using all
        · rintro e t ⟨_, judged, rfl⟩
          exact read.trans judged
    · rintro e _ ⟨answered, rfl⟩
      rw [← answered] at read
      exact read

theorem ask_consumes (still : ∀ answer, (judge answer).Still) :
    (ask judge).Consumes fun answer idle => idle = idleOf answer := by
  intro s
  have asked : (ask judge).Ensures s fun answer t =>
      Advances (console s) (console t) (idleOf answer) :=
    askWithin_advances still (readBound s) (Nat.lt_succ_self _)
  refine asked.mono ?_
  intro answer t advances
  exact ⟨_, advances, rfl⟩

theorem askNonblank_consumes :
    (askNonblank : Task C (Option String)).Consumes fun answer idle => idle = idleOf answer :=
  ask_consumes fun answer => Still.pure (judgeNonblank answer)

theorem askYesNo_consumes :
    (askYesNo : Task C (Option Bool)).Consumes fun answer idle => idle = idleOf answer :=
  ask_consumes fun answer => Still.pure (judgeYesNo answer)

end Questions

end Console

end ProfileShell
