import ProfileShell.Proofs.Value
import ProfileShell.Binding

/-!
What binding makes of the tokens of a line.

A parameter takes the value of the token at its position, or its fallback where there is no token.
Tokens are bound exactly if there are not too many of them, each has a value, and only parameters
that may be omitted lack one; every name that is bound is the name of a parameter.
-/

set_option autoImplicit false
set_option relaxedAutoImplicit false

namespace ProfileShell

namespace Parameter

/-- The value that a parameter takes from its token, or from its fallback without one. -/
def valueOf (p : Parameter) : Option String → Option Value
  | some token => p.type.coerce token
  | none => p.fallback

def Admits (p : Parameter) : Option String → Prop
  | some token => ∃ v, p.type.coerce token = some v
  | none => p.required = false

def faultOf (p : Parameter) : Option String → BindError
  | some token => .invalidArgument p.name token p.type.display
  | none => .missingArgument p.name

end Parameter

namespace Arguments

private theorem get?_elim_insert (bound : Arguments) (name other : String) (value : Option Value) :
    (value.elim bound (bound.insert name)).get? other =
      if other = name then value.or (bound.get? name) else bound.get? other := by
  cases value with
  | none =>
    by_cases same : other = name
    · simp [same]
    · simp [same]
  | some v =>
    rw [Option.elim_some, TextMap.get?_insert, Option.some_or]

theorem bindFrom_cons (bound : Arguments) (p : Parameter) (ps : List Parameter)
    (tokens : List String) :
    (p.Admits tokens.head? → bindFrom bound (p :: ps) tokens =
      bindFrom ((p.valueOf tokens.head?).elim bound (bound.insert p.name)) ps tokens.tail) ∧
    (¬p.Admits tokens.head? → bindFrom bound (p :: ps) tokens =
      .error (p.faultOf tokens.head?)) := by
  cases tokens with
  | nil =>
    simp only [bindFrom, List.head?_nil, List.tail_nil, Parameter.Admits, Parameter.valueOf,
      Parameter.faultOf]
    cases p.required <;> cases p.fallback <;> simp
  | cons token tokens =>
    simp only [bindFrom, List.head?_cons, List.tail_cons, Parameter.Admits, Parameter.valueOf,
      Parameter.faultOf]
    cases p.type.coerce token <;> simp

private theorem bindFrom_cons_eq_ok_iff (bound args : Arguments) (p : Parameter)
    (ps : List Parameter) (tokens : List String) :
    bindFrom bound (p :: ps) tokens = .ok args ↔
      p.Admits tokens.head? ∧
        bindFrom ((p.valueOf tokens.head?).elim bound (bound.insert p.name)) ps tokens.tail =
          .ok args := by
  obtain ⟨goesOn, stops⟩ := bindFrom_cons bound p ps tokens
  by_cases admits : p.Admits tokens.head?
  · rw [goesOn admits, and_iff_right admits]
  · rw [stops admits]
    simp [admits]

/-- The arguments that tokens and fallbacks give to parameters. -/
structure Binds (ps : List Parameter) (tokens : List String) (args : Arguments) : Prop where
  named : ∀ name, args.get? name ≠ none → ∃ p ∈ ps, p.name = name
  value : ∀ (i : Nat) p, ps[i]? = some p → args.get? p.name = p.valueOf tokens[i]?

/-- What is bound is what the parameters take. -/
theorem Binds.get?_eq_some_iff {ps : List Parameter} {tokens : List String} {args : Arguments}
    (binds : Binds ps tokens args) (name : String) (v : Value) :
    args.get? name = some v ↔
      ∃ (i : Nat) (p : Parameter), ps[i]? = some p ∧ p.name = name ∧
        p.valueOf tokens[i]? = some v := by
  constructor
  · intro found
    obtain ⟨p, member, rfl⟩ := binds.named name (by simp [found])
    obtain ⟨i, declared⟩ := List.mem_iff_getElem?.mp member
    rw [binds.value i p declared] at found
    exact ⟨i, p, declared, rfl, found⟩
  · rintro ⟨i, p, declared, rfl, taken⟩
    rw [binds.value i p declared]
    exact taken

private theorem bindFrom_spec {ps : List Parameter} {tokens : List String}
    {bound args : Arguments} (distinct : (ps.map Parameter.name).Nodup)
    (fresh : ∀ p ∈ ps, bound.get? p.name = none)
    (bind : bindFrom bound ps tokens = .ok args) :
    (∀ name, name ∉ ps.map Parameter.name → args.get? name = bound.get? name) ∧
      ∀ (i : Nat) p, ps[i]? = some p →
        p.Admits tokens[i]? ∧ args.get? p.name = p.valueOf tokens[i]? := by
  induction ps generalizing tokens bound with
  | nil =>
    rw [bindFrom] at bind
    cases bind
    exact ⟨fun _ _ => rfl, fun i p impossible => by simp at impossible⟩
  | cons p ps ih =>
    obtain ⟨own, distinct⟩ := List.nodup_cons.mp distinct
    obtain ⟨admits, rest⟩ := (bindFrom_cons_eq_ok_iff bound args p ps tokens).mp bind
    have later : ∀ q ∈ ps, ((p.valueOf tokens.head?).elim bound (bound.insert p.name)).get?
        q.name = none := by
      intro q member
      have other : q.name ≠ p.name := fun same => own (same ▸ List.mem_map_of_mem member)
      rw [get?_elim_insert, if_neg other]
      exact fresh q (List.mem_cons_of_mem p member)
    obtain ⟨frame, values⟩ := ih distinct later rest
    constructor
    · intro name outside
      rw [List.map_cons, List.mem_cons, not_or] at outside
      rw [frame name outside.2, get?_elim_insert, if_neg outside.1]
    · intro i q found
      cases i with
      | zero =>
        obtain rfl : p = q := by simpa using found
        rw [← List.head?_eq_getElem?]
        refine ⟨admits, ?_⟩
        -- No later parameter has this name, so its value stays.
        rw [frame p.name own, get?_elim_insert, if_pos rfl, fresh p List.mem_cons_self,
          Option.or_none]
      | succ i =>
        rw [← List.getElem?_tail]
        exact values i q (by simpa using found)

private theorem exists_bindFrom {ps : List Parameter} {tokens : List String}
    (admits : ∀ (i : Nat) p, ps[i]? = some p → p.Admits tokens[i]?) (bound : Arguments) :
    ∃ args, bindFrom bound ps tokens = .ok args := by
  induction ps generalizing tokens bound with
  | nil => exact ⟨bound, by rw [bindFrom]⟩
  | cons p ps ih =>
    simp only [bindFrom_cons_eq_ok_iff, exists_and_left]
    refine ⟨?_, ih (fun i q found => ?_) _⟩
    · rw [List.head?_eq_getElem?]
      exact admits 0 p rfl
    · rw [List.getElem?_tail]
      exact admits (i + 1) q found

theorem bind_eq_ok_iff (ps : List Parameter) (tokens : List String) (args : Arguments) :
    bind ps tokens = .ok args ↔
      tokens.length ≤ ps.length ∧ bindFrom .empty ps tokens = .ok args := by
  unfold bind
  cases bindFrom .empty ps tokens with
  | error e => simp
  | ok bound =>
    by_cases many : ps.length < tokens.length
    · simp [many, Nat.not_le.mpr many]
    · simp [many, Nat.not_lt.mp many]

variable {ps : List Parameter} {tokens : List String} {args : Arguments}

theorem binds_of_bind (distinct : (ps.map Parameter.name).Nodup)
    (bound : bind ps tokens = .ok args) : Binds ps tokens args := by
  obtain ⟨-, bound⟩ := (bind_eq_ok_iff ps tokens args).mp bound
  obtain ⟨frame, values⟩ := bindFrom_spec distinct (fun _ _ => rfl) bound
  refine ⟨fun name present => ?_, fun i p found => (values i p found).2⟩
  by_cases declared : name ∈ ps.map Parameter.name
  · exact List.mem_map.mp declared
  · exact absurd (frame name declared) present

/-- Tokens can be bound exactly if there are not too many and each parameter admits its own. -/
theorem exists_bind_iff (distinct : (ps.map Parameter.name).Nodup) :
    (∃ args, bind ps tokens = .ok args) ↔
      tokens.length ≤ ps.length ∧ ∀ (i : Nat) p, ps[i]? = some p → p.Admits tokens[i]? := by
  constructor
  · rintro ⟨args, bound⟩
    obtain ⟨few, bound⟩ := (bind_eq_ok_iff ps tokens args).mp bound
    exact ⟨few, fun i p found => ((bindFrom_spec distinct (fun _ _ => rfl) bound).2 i p found).1⟩
  · rintro ⟨few, admits⟩
    obtain ⟨args, bound⟩ := exists_bindFrom admits .empty
    exact ⟨args, (bind_eq_ok_iff ps tokens args).mpr ⟨few, bound⟩⟩

end Arguments

end ProfileShell
