import ProfileShell.Failure

/-!
Two computations that agree: from related states they answer the same and end in related states.

Agreement is passed on by every way to put computations together, so programs that differ only in
what their states are made of agree as soon as their primitive operations do. The log is no part of
it, but it may excuse: computations that agree until a marked record agree in every run in which the
first of them logs no such record.
-/

set_option autoImplicit false
set_option relaxedAutoImplicit false

namespace ProfileShell

variable {σ τ γ δ α β : Type} {R : σ → τ → Prop} {Marked : LogRecord → Prop}

namespace Action

def AgreesAt (R : σ → τ → Prop) (x : Action σ α) (y : Action τ α) (s : σ) (t : τ) : Prop :=
  (x.run s).answer = (y.run t).answer ∧ R (x.run s).state (y.run t).state

def Agrees (R : σ → τ → Prop) (x : Action σ α) (y : Action τ α) : Prop :=
  ∀ s t, R s t → AgreesAt R x y s t

/-- From these two states the actions agree unless the first one logs a marked record. -/
def AgreesUntilAt (Marked : LogRecord → Prop) (R : σ → τ → Prop) (x : Action σ α)
    (y : Action τ α) (s : σ) (t : τ) : Prop :=
  (∀ record ∈ (x.run s).log, ¬Marked record) → AgreesAt R x y s t

def AgreesUntil (Marked : LogRecord → Prop) (R : σ → τ → Prop) (x : Action σ α)
    (y : Action τ α) : Prop :=
  ∀ s t, R s t → AgreesUntilAt Marked R x y s t

private theorem Agrees.until {x : Action σ α} {y : Action τ α} (agrees : Agrees R x y) :
    AgreesUntil Marked R x y :=
  fun s t related _ => agrees s t related

/-- Where nothing is marked the actions agree. -/
theorem AgreesUntil.agrees {x : Action σ α} {y : Action τ α}
    (agrees : AgreesUntil (fun _ => False) R x y) : Agrees R x y :=
  fun s t related => agrees s t related fun _ _ => not_false

theorem AgreesAt.bind {x : Action σ α} {y : Action τ α} {f : α → Action σ β}
    {g : α → Action τ β} {s : σ} {t : τ} (first : AgreesAt R x y s t)
    (second : AgreesAt R (f (x.run s).answer) (g (x.run s).answer) (x.run s).state
      (y.run t).state) : AgreesAt R (x >>= f) (y >>= g) s t := by
  unfold AgreesAt at second ⊢
  rw [run_bind, run_bind, ← first.1]
  exact second

theorem Agrees.pure (a : α) : Agrees R (Pure.pure a) (Pure.pure a) :=
  fun _ _ related => ⟨rfl, related⟩

namespace AgreesUntil

theorem pure (a : α) : AgreesUntil Marked R (Pure.pure a) (Pure.pure a) :=
  (Agrees.pure a).until

private theorem bindAt {P : α → Prop} {x : Action σ α} {y : Action τ α} {f : α → Action σ β}
    {g : α → Action τ β} {s : σ} {t : τ} (first : AgreesUntilAt Marked R x y s t)
    (found : P (x.run s).answer) (second : ∀ a, P a → AgreesUntil Marked R (f a) (g a)) :
    AgreesUntilAt Marked R (x >>= f) (y >>= g) s t := by
  intro unmarked
  rw [run_bind] at unmarked
  have agrees := first fun record member => unmarked record (List.mem_append_left _ member)
  refine agrees.bind (second _ found _ _ agrees.2 fun record member => ?_)
  exact unmarked record (List.mem_append_right _ member)

theorem bind {x : Action σ α} {y : Action τ α} {f : α → Action σ β} {g : α → Action τ β}
    (first : AgreesUntil Marked R x y) (second : ∀ a, AgreesUntil Marked R (f a) (g a)) :
    AgreesUntil Marked R (x >>= f) (y >>= g) :=
  fun s t related =>
    bindAt (P := fun _ => True) (first s t related) trivial fun a _ => second a

theorem note (level : Level) (text : String) :
    AgreesUntil Marked R (Action.note level text) (Action.note level text) :=
  fun _ _ related _ => ⟨rfl, related⟩

private theorem within {S : γ → δ → Prop} {part : γ → σ} {replace : σ → γ → γ} {part' : δ → τ}
    {replace' : τ → δ → δ} {x : Action σ α} {y : Action τ α} (agrees : AgreesUntil Marked R x y)
    (into : ∀ c d, S c d → R (part c) (part' d))
    (back : ∀ c d s t, S c d → R s t → S (replace s c) (replace' t d)) :
    AgreesUntil Marked S (Action.within part replace x) (Action.within part' replace' y) := by
  intro c d related unmarked
  obtain ⟨same, parts⟩ := agrees _ _ (into c d related) unmarked
  exact ⟨same, back c d _ _ related parts⟩

end AgreesUntil

end Action

namespace Task

open ProfileShell.Action (AgreesAt AgreesUntilAt)

def Agrees (R : σ → τ → Prop) (x : Task σ α) (y : Task τ α) : Prop :=
  Action.Agrees R x.run y.run

def AgreesUntil (Marked : LogRecord → Prop) (R : σ → τ → Prop) (x : Task σ α)
    (y : Task τ α) : Prop :=
  Action.AgreesUntil Marked R x.run y.run

theorem Agrees.until {x : Task σ α} {y : Task τ α} (agrees : Agrees R x y) :
    AgreesUntil Marked R x y :=
  Action.Agrees.until agrees

theorem AgreesUntil.agrees {x : Task σ α} {y : Task τ α}
    (agrees : AgreesUntil (fun _ => False) R x y) : Agrees R x y :=
  Action.AgreesUntil.agrees agrees

namespace AgreesUntil

theorem pure (a : α) : AgreesUntil Marked R (Pure.pure a) (Pure.pure a) :=
  Action.AgreesUntil.pure _

theorem throw (e : Failure) :
    AgreesUntil (α := α) Marked R (MonadExcept.throw e) (MonadExcept.throw e) :=
  Action.AgreesUntil.pure _

theorem ofExcept (x : Except Failure α) :
    AgreesUntil Marked R (Task.ofExcept x) (Task.ofExcept x) :=
  Action.AgreesUntil.pure _

theorem note (level : Level) (text : String) :
    AgreesUntil Marked R (Task.note level text) (Task.note level text) :=
  fun _ _ related _ => ⟨rfl, related⟩

theorem lift {x : Action σ α} {y : Action τ α} (agrees : Action.AgreesUntil Marked R x y) :
    AgreesUntil Marked R (ExceptT.lift x) (ExceptT.lift y) := by
  intro s t related unmarked
  obtain ⟨same, states⟩ := agrees s t related fun record member =>
    unmarked record (List.mem_append_left _ member)
  exact ⟨congrArg Except.ok same, states⟩

theorem attempt {x : Task σ α} {y : Task τ α} (agrees : AgreesUntil Marked R x y) :
    AgreesUntil Marked R (Task.attempt x) (Task.attempt y) :=
  lift agrees

theorem bind_of {P : α → Prop} {x : Task σ α} {y : Task τ α} {f : α → Task σ β}
    {g : α → Task τ β} (first : AgreesUntil Marked R x y)
    (found : ∀ s t, R s t → ∀ a, (x.runOn s).answer = .ok a → P a)
    (second : ∀ a, P a → AgreesUntil Marked R (f a) (g a)) :
    AgreesUntil Marked R (x >>= f) (y >>= g) := by
  intro s t related
  change AgreesUntilAt Marked R (x.run >>= ExceptT.bindCont f) (y.run >>= ExceptT.bindCont g) s t
  refine Action.AgreesUntil.bindAt (P := fun answer : Except Failure α => ∀ a, answer = .ok a → P a)
    (first s t related) (found s t related) fun answer known => ?_
  cases answer with
  | ok a => exact second a (known a rfl)
  | error e => exact Action.AgreesUntil.pure _

theorem bind {x : Task σ α} {y : Task τ α} {f : α → Task σ β} {g : α → Task τ β}
    (first : AgreesUntil Marked R x y) (second : ∀ a, AgreesUntil Marked R (f a) (g a)) :
    AgreesUntil Marked R (x >>= f) (y >>= g) :=
  bind_of (P := fun _ => True) first (fun _ _ _ _ _ => trivial) fun a _ => second a

theorem throw_bind {e : Failure} {f : α → Task σ β} {g : α → Task τ β} :
    AgreesUntil Marked R (MonadExcept.throw e >>= f) (MonadExcept.throw e >>= g) :=
  fun _ _ related _ => ⟨rfl, related⟩

theorem get_bind {f : σ → Task σ β} {g : τ → Task τ β}
    (next : ∀ s t, R s t → AgreesUntilAt Marked R (f s).run (g t).run s t) :
    AgreesUntil Marked R (MonadState.get >>= f) (MonadState.get >>= g) :=
  fun s t related => next s t related

theorem modify {f : σ → σ} {g : τ → τ} (next : ∀ s t, R s t → R (f s) (g t)) :
    AgreesUntil Marked R (modify f : Task σ PUnit) (modify g) :=
  fun s t related _ => ⟨rfl, next s t related⟩

theorem within {S : γ → δ → Prop} {part : γ → σ} {replace : σ → γ → γ} {part' : δ → τ}
    {replace' : τ → δ → δ} {x : Task σ α} {y : Task τ α} (agrees : AgreesUntil Marked R x y)
    (into : ∀ c d, S c d → R (part c) (part' d))
    (back : ∀ c d s t, S c d → R s t → S (replace s c) (replace' t d)) :
    AgreesUntil Marked S (Task.within part replace x) (Task.within part' replace' y) :=
  Action.AgreesUntil.within agrees into back

end AgreesUntil

namespace Agrees

theorem pure (a : α) : Agrees R (Pure.pure a) (Pure.pure a) :=
  Action.Agrees.pure _

theorem bind {x : Task σ α} {y : Task τ α} {f : α → Task σ β} {g : α → Task τ β}
    (first : Agrees R x y) (second : ∀ a, Agrees R (f a) (g a)) :
    Agrees R (x >>= f) (y >>= g) :=
  (AgreesUntil.bind first.until fun a => (second a).until).agrees

end Agrees

end Task

end ProfileShell
