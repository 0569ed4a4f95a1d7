import ProfileShell.Failure

/-!
What a task ensures: a property of the answer and the state that it ends with.

Each way to put tasks together has one law, which says what has to be shown of the parts. A failure
inside a sequence ends it in the state that was reached.
-/

set_option autoImplicit false
set_option relaxedAutoImplicit false

namespace ProfileShell.Task

variable {σ γ α β : Type}

theorem runOn_within (part : γ → σ) (replace : σ → γ → γ) (x : Task σ α) (c : γ) :
    (Task.within part replace x).runOn c =
      ⟨(x.runOn (part c)).answer, replace (x.runOn (part c)).state c,
        (x.runOn (part c)).log⟩ := rfl

theorem runOn_get_bind (f : σ → Task σ α) (s : σ) :
    Task.runOn (MonadState.get >>= f) s = (f s).runOn s := rfl

theorem runOn_set_bind (t : σ) (f : PUnit → Task σ α) (s : σ) :
    Task.runOn (MonadStateOf.set t >>= f) s = (f ⟨⟩).runOn t := rfl

theorem runOn_ofExcept_bind (b : β) (f : β → Task σ α) (s : σ) :
    Task.runOn (Task.ofExcept (.ok b) >>= f) s = (f b).runOn s := rfl

theorem runOn_bind_of_ok {x : Task σ β} {s t : σ} {b : β} {w : List LogRecord}
    (ran : x.runOn s = ⟨.ok b, t, w⟩) (f : β → Task σ α) :
    Task.runOn (x >>= f) s =
      ⟨((f b).runOn t).answer, ((f b).runOn t).state, w ++ ((f b).runOn t).log⟩ := by
  change Action.run (x.run >>= ExceptT.bindCont f) s = _
  change Action.run x.run s = _ at ran
  rw [Action.run_bind, ran]
  rfl

theorem runOn_bind_of_error {x : Task σ β} {s t : σ} {e : Failure} {w : List LogRecord}
    (ran : x.runOn s = ⟨.error e, t, w⟩) (f : β → Task σ α) :
    Task.runOn (x >>= f) s = ⟨.error e, t, w⟩ := by
  change Action.run (x.run >>= ExceptT.bindCont f) s = _
  change Action.run x.run s = _ at ran
  rw [Action.run_bind, ran]
  exact congrArg (Run.mk _ t) (List.append_nil w)

theorem runOn_map (f : β → α) (x : Task σ β) (s : σ) :
    Task.runOn (f <$> x) s = ⟨(x.runOn s).answer.map f, (x.runOn s).state, (x.runOn s).log⟩ := by
  change Action.run (f <$> x).run s = _
  rw [ExceptT.run_map, map_eq_pure_bind, Action.run_bind]
  exact congrArg (Run.mk _ _) (List.append_nil _)

/-- Run from `s`, the task ends with an answer and a state that have the property `Q`. -/
def Ensures (x : Task σ α) (s : σ) (Q : Except Failure α → σ → Prop) : Prop :=
  Q (x.runOn s).answer (x.runOn s).state

namespace Ensures

variable {s : σ} {Q : Except Failure α → σ → Prop}

theorem mono {P : Except Failure α → σ → Prop} {x : Task σ α} (h : x.Ensures s P)
    (weaken : ∀ answer t, P answer t → Q answer t) : x.Ensures s Q :=
  weaken _ _ h

theorem and {P : Except Failure α → σ → Prop} {x : Task σ α} (first : x.Ensures s P)
    (second : x.Ensures s Q) : x.Ensures s fun answer t => P answer t ∧ Q answer t :=
  ⟨first, second⟩

theorem pure {a : α} (h : Q (.ok a) s) : Ensures (Pure.pure a) s Q := h

theorem throw {e : Failure} (h : Q (.error e) s) : Ensures (MonadExcept.throw e) s Q := h

theorem bind {P : Except Failure β → σ → Prop} {x : Task σ β} {f : β → Task σ α}
    (first : x.Ensures s P) (second : ∀ b t, P (.ok b) t → (f b).Ensures t Q)
    (failed : ∀ e t, P (.error e) t → Q (.error e) t) : Ensures (x >>= f) s Q := by
  unfold Ensures at first ⊢
  change Q (Action.run (x.run >>= ExceptT.bindCont f) s).answer
    (Action.run (x.run >>= ExceptT.bindCont f) s).state
  rw [Action.run_bind]
  change P (Action.run x.run s).answer (Action.run x.run s).state at first
  cases answer : (Action.run x.run s).answer with
  | ok b =>
    rw [answer] at first
    exact second b _ first
  | error e =>
    rw [answer] at first
    exact failed e _ first

theorem bind_of_answer {b : β} {P : σ → Prop} {x : Task σ β} {f : β → Task σ α}
    (first : x.Ensures s fun answer t => answer = .ok b ∧ P t)
    (next : ∀ t, P t → (f b).Ensures t Q) : Ensures (x >>= f) s Q := by
  refine bind first ?_ ?_
  · rintro _ t ⟨⟨⟩, reached⟩
    exact next t reached
  · rintro _ _ ⟨⟨⟩, -⟩

theorem step {x : Task σ β} {f : β → Task σ α} {b : β} {t : σ} {w : List LogRecord}
    (ran : x.runOn s = ⟨.ok b, t, w⟩) (next : (f b).Ensures t Q) : Ensures (x >>= f) s Q := by
  refine bind (P := fun answer reached => answer = .ok b ∧ reached = t) ?_ ?_ ?_
  · unfold Ensures
    rw [ran]
    exact ⟨rfl, rfl⟩
  · rintro _ _ ⟨⟨⟩, rfl⟩
    exact next
  · rintro _ _ ⟨⟨⟩, -⟩

theorem stop {x : Task σ β} {f : β → Task σ α} {e : Failure} {t : σ} {w : List LogRecord}
    (ran : x.runOn s = ⟨.error e, t, w⟩) (h : Q (.error e) t) : Ensures (x >>= f) s Q := by
  refine bind (P := fun answer reached => answer = .error e ∧ reached = t) ?_ ?_ ?_
  · unfold Ensures
    rw [ran]
    exact ⟨rfl, rfl⟩
  · rintro _ _ ⟨⟨⟩, -⟩
  · rintro _ _ ⟨⟨⟩, rfl⟩
    exact h

theorem lift_bind {x : Action σ β} {f : β → Task σ α}
    (next : (f (x.run s).answer).Ensures (x.run s).state Q) :
    Ensures (ExceptT.lift x >>= f) s Q :=
  step (w := (x.run s).log ++ []) rfl next

theorem attempt {x : Task σ β} {Q : Except Failure (Except Failure β) → σ → Prop}
    (h : x.Ensures s fun answer t => Q (.ok answer) t) : (Task.attempt x).Ensures s Q := h

theorem note {level : Level} {text : String} {Q : Except Failure Unit → σ → Prop}
    (h : Q (.ok ()) s) : (Task.note level text).Ensures s Q := h

theorem ofExcept {x : Except Failure α} (h : Q x s) : (Task.ofExcept x).Ensures s Q := h

theorem get {Q : Except Failure σ → σ → Prop} (h : Q (.ok s) s) :
    Ensures (MonadState.get : Task σ σ) s Q := h

theorem set {t : σ} {Q : Except Failure PUnit → σ → Prop} (h : Q (.ok ()) t) :
    Ensures (MonadStateOf.set t : Task σ PUnit) s Q := h

theorem modify {f : σ → σ} {Q : Except Failure PUnit → σ → Prop} (h : Q (.ok ()) (f s)) :
    Ensures (modify f : Task σ PUnit) s Q := h

theorem within {part : γ → σ} {replace : σ → γ → γ} {x : Task σ α} {c : γ}
    {Q : Except Failure α → γ → Prop}
    (h : x.Ensures (part c) fun answer t => Q answer (replace t c)) :
    (Task.within part replace x).Ensures c Q := h

theorem lift {x : Action σ α} (h : Q (.ok (x.run s).answer) (x.run s).state) :
    Ensures (ExceptT.lift x) s Q := h

end Ensures

end ProfileShell.Task
