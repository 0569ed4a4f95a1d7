/-!
Computations over a state that keep a log.

An action reads and changes a state, answers a value and appends to the log; nothing it computes
can depend on the log. Actions form a monad in which the log of a sequence is the logs of its steps
in order. What may fail is an action with `ExceptT`, so a failure keeps the state and the log that
were reached.
-/

set_option autoImplicit false
set_option relaxedAutoImplicit false

namespace ProfileShell

inductive Level
  | debug
  | info
  | warn
  | error
  deriving DecidableEq

structure LogRecord where
  level : Level
  text : String
  deriving DecidableEq

structure Run (σ α : Type) where
  answer : α
  state : σ
  log : List LogRecord

/-- A computation over a state. -/
def Action (σ α : Type) : Type :=
  σ → Run σ α

namespace Action

variable {σ γ α β : Type}

def run (x : Action σ α) (s : σ) : Run σ α :=
  x s

instance : Monad (Action σ) where
  pure a := fun s => ⟨a, s, []⟩
  bind x f := fun s =>
    let first := x s
    let second := f first.answer first.state
    ⟨second.answer, second.state, first.log ++ second.log⟩

instance : MonadStateOf σ (Action σ) where
  get := fun s => ⟨s, s, []⟩
  set s := fun _ => ⟨(), s, []⟩
  modifyGet f := fun s =>
    let (a, next) := f s
    ⟨a, next, []⟩

def note (level : Level) (text : String) : Action σ Unit :=
  fun s => ⟨(), s, [⟨level, text⟩]⟩

def within (part : γ → σ) (replace : σ → γ → γ) (x : Action σ α) : Action γ α :=
  fun c =>
    let inner := x (part c)
    ⟨inner.answer, replace inner.state c, inner.log⟩

@[simp] theorem run_pure (a : α) (s : σ) : (pure a : Action σ α).run s = ⟨a, s, []⟩ := rfl

@[simp] theorem run_bind (x : Action σ α) (f : α → Action σ β) (s : σ) :
    (x >>= f).run s =
      ⟨((f (x.run s).answer).run (x.run s).state).answer,
        ((f (x.run s).answer).run (x.run s).state).state,
        (x.run s).log ++ ((f (x.run s).answer).run (x.run s).state).log⟩ := rfl

@[simp] theorem run_note (level : Level) (text : String) (s : σ) :
    (note level text : Action σ Unit).run s = ⟨(), s, [⟨level, text⟩]⟩ := rfl

@[simp] theorem run_get (s : σ) : (get : Action σ σ).run s = ⟨s, s, []⟩ := rfl

@[simp] theorem run_set (next s : σ) : (set next : Action σ PUnit).run s = ⟨(), next, []⟩ := rfl

@[simp] theorem run_within (part : γ → σ) (replace : σ → γ → γ) (x : Action σ α) (c : γ) :
    (within part replace x).run c =
      ⟨(x.run (part c)).answer, replace (x.run (part c)).state c, (x.run (part c)).log⟩ := rfl

instance : LawfulMonad (Action σ) :=
  LawfulMonad.mk' (Action σ)
    (by
      intro α x
      funext s
      show Run.mk (x s).answer (x s).state ((x s).log ++ []) = x s
      rw [List.append_nil])
    (by
      intro α β a f
      rfl)
    (by
      intro α β γ x f g
      funext s
      simp only [bind, List.append_assoc])

end Action

end ProfileShell
