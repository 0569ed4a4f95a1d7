import ProfileShell.Proofs.Action.Ensures

/-!
Tasks that keep an invariant of their state.

Whatever state with the invariant a task starts from, it ends in one, and an answer that is no
failure has a property. The laws follow the ways to put tasks together, so that a program keeps an
invariant as soon as its primitive operations do.
-/

set_option autoImplicit false
set_option relaxedAutoImplicit false

namespace ProfileShell.Task

variable {σ γ α β : Type}

/-- The task keeps the invariant `I`, and its answers have the property `P`. -/
def Keeps (I : σ → Prop) (x : Task σ α) (P : α → Prop) : Prop :=
  ∀ s, I s → x.Ensures s fun answer t => I t ∧ ∀ a, answer = .ok a → P a

namespace Keeps

variable {I : σ → Prop} {P : α → Prop} {Q : β → Prop}

theorem state {x : Task σ α} (keeps : Keeps I x P) {s : σ} (holds : I s) :
    I (x.runOn s).state :=
  (keeps s holds).1

theorem mono {R : α → Prop} {x : Task σ α} (keeps : Keeps I x R) (weaken : ∀ a, R a → P a) :
    Keeps I x P :=
  fun s holds => (keeps s holds).mono fun _ _ ⟨kept, found⟩ =>
    ⟨kept, fun a answered => weaken a (found a answered)⟩

theorem pure {a : α} (found : P a) : Keeps I (Pure.pure a) P := by
  intro s holds
  refine Ensures.pure ⟨holds, ?_⟩
  rintro _ ⟨⟩
  exact found

theorem throw {e : Failure} : Keeps I (MonadExcept.throw e) P :=
  fun _ holds => Ensures.throw ⟨holds, fun _ impossible => by cases impossible⟩

theorem bind {x : Task σ α} {f : α → Task σ β} (first : Keeps I x P)
    (second : ∀ a, P a → Keeps I (f a) Q) : Keeps I (x >>= f) Q := by
  intro s holds
  refine Ensures.bind (first s holds) ?_ ?_
  · rintro a t ⟨kept, found⟩
    exact second a (found a rfl) t kept
  · rintro e t ⟨kept, -⟩
    exact ⟨kept, fun _ impossible => by cases impossible⟩

theorem throw_bind {e : Failure} {f : α → Task σ β} : Keeps I (MonadExcept.throw e >>= f) Q :=
  bind (P := fun _ => False) throw fun _ impossible => impossible.elim

theorem attempt {x : Task σ α} (keeps : Keeps I x P) :
    Keeps I (Task.attempt x) fun outcome => ∀ a, outcome = .ok a → P a := by
  intro s holds
  refine Ensures.attempt ((keeps s holds).mono fun answer t ⟨kept, found⟩ => ⟨kept, ?_⟩)
  rintro _ ⟨⟩
  exact found

theorem note {level : Level} {text : String} :
    Keeps I (Task.note level text) fun _ => True :=
  fun _ holds => Ensures.note ⟨holds, fun _ _ => trivial⟩

theorem ofExcept {x : Except Failure α} (found : ∀ a, x = .ok a → P a) :
    Keeps I (Task.ofExcept x) P :=
  fun _ holds => Ensures.ofExcept ⟨holds, found⟩

theorem get : Keeps I (MonadState.get : Task σ σ) I :=
  fun _ holds => Ensures.get ⟨holds, fun _ same => by cases same; exact holds⟩

theorem set {t : σ} (next : I t) : Keeps I (MonadStateOf.set t : Task σ PUnit) fun _ => True :=
  fun _ _ => Ensures.set ⟨next, fun _ _ => trivial⟩

theorem modify {f : σ → σ} (next : ∀ s, I s → I (f s)) :
    Keeps I (modify f : Task σ PUnit) fun _ => True :=
  fun s holds => Ensures.modify ⟨next s holds, fun _ _ => trivial⟩

/-- A task on a part keeps an invariant of the whole that is one of the part. -/
theorem within {J : γ → Prop} {part : γ → σ} {replace : σ → γ → γ} {x : Task σ α}
    (keeps : Keeps I x P) (into : ∀ c, J c → I (part c))
    (back : ∀ c s, J c → I s → J (replace s c)) : Keeps J (Task.within part replace x) P :=
  fun c holds => Ensures.within ((keeps (part c) (into c holds)).mono fun _ s ⟨kept, found⟩ =>
    ⟨back c s holds kept, found⟩)

theorem lift {x : Action σ α} (keeps : ∀ s, I s → I (x.run s).state) :
    Keeps I (ExceptT.lift x) fun _ => True :=
  fun s holds => Ensures.lift ⟨keeps s holds, fun _ _ => trivial⟩

end Keeps

end ProfileShell.Task
