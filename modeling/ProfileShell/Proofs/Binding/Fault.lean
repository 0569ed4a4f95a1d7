import Mathlib.Data.Set.Basic
import Mathlib.Order.Nat
import ProfileShell.Proofs.Binding

/-!
For which fault tokens are refused.

A token without a value is reported before a token that is missing, and a missing token before a
surplus of tokens; of the faults of one kind the first is reported. Tokens without a fault are bound
to the values of the tokens, and to the fallbacks of the parameters that have no token.
-/

set_option autoImplicit false
set_option relaxedAutoImplicit false

namespace ProfileShell

namespace Arguments

def misread (ps : List Parameter) (tokens : List String) : Set Nat :=
  { i | ∃ p token, ps[i]? = some p ∧ tokens[i]? = some token ∧ p.type.coerce token = none }

def lacking (ps : List Parameter) (tokens : List String) : Set Nat :=
  { i | ∃ p, ps[i]? = some p ∧ tokens.length ≤ i ∧ p.required = true }

/-- The error with which tokens are refused. -/
inductive Refuses (ps : List Parameter) (tokens : List String) : BindError → Prop
  | invalid {i : Nat} {p : Parameter} {token : String} (first : IsLeast (misread ps tokens) i)
      (declared : ps[i]? = some p) (given : tokens[i]? = some token) :
      Refuses ps tokens (.invalidArgument p.name token p.type.display)
  | missing {i : Nat} {p : Parameter} (read : misread ps tokens = ∅)
      (first : IsLeast (lacking ps tokens) i) (declared : ps[i]? = some p) :
      Refuses ps tokens (.missingArgument p.name)
  | surplus (read : misread ps tokens = ∅) (complete : lacking ps tokens = ∅)
      (many : ps.length < tokens.length) :
      Refuses ps tokens (.tooManyArguments ps.length tokens.length)

section FirstFault

private def stuck (ps : List Parameter) (tokens : List String) : Set Nat :=
  { i | ∃ p, ps[i]? = some p ∧ ¬p.Admits tokens[i]? }

variable {p : Parameter} {ps : List Parameter} {tokens : List String}

private theorem zero_mem_stuck_cons : 0 ∈ stuck (p :: ps) tokens ↔ ¬p.Admits tokens.head? := by
  rw [List.head?_eq_getElem?]
  simp [stuck]

private theorem succ_mem_stuck_cons {i : Nat} :
    i + 1 ∈ stuck (p :: ps) tokens ↔ i ∈ stuck ps tokens.tail := by
  simp [stuck]

private theorem isLeast_stuck_cons (admits : p.Admits tokens.head?) (i : Nat) :
    IsLeast (stuck (p :: ps) tokens) i ↔ ∃ j, i = j + 1 ∧ IsLeast (stuck ps tokens.tail) j := by
  have fine : 0 ∉ stuck (p :: ps) tokens := fun member => zero_mem_stuck_cons.mp member admits
  constructor
  · rintro ⟨member, least⟩
    cases i with
    | zero => exact (fine member).elim
    | succ j =>
      refine ⟨j, rfl, succ_mem_stuck_cons.mp member, fun k other => ?_⟩
      have after := least (succ_mem_stuck_cons.mpr other)
      exact Nat.le_of_succ_le_succ after
  · rintro ⟨j, rfl, member, least⟩
    refine ⟨succ_mem_stuck_cons.mpr member, fun k other => ?_⟩
    cases k with
    | zero => exact (fine other).elim
    | succ k => exact Nat.succ_le_succ (least (succ_mem_stuck_cons.mp other))

private theorem bindFrom_eq_error_iff (bound : Arguments) (e : BindError) :
    bindFrom bound ps tokens = .error e ↔
      ∃ i q, IsLeast (stuck ps tokens) i ∧ ps[i]? = some q ∧ e = q.faultOf tokens[i]? := by
  induction ps generalizing tokens bound with
  | nil => simp [bindFrom]
  | cons p ps ih =>
    obtain ⟨goesOn, stops⟩ := bindFrom_cons bound p ps tokens
    by_cases admits : p.Admits tokens.head?
    · simp only [goesOn admits, ih, isLeast_stuck_cons admits]
      constructor
      · rintro ⟨j, q, first, declared, same⟩
        exact ⟨j + 1, q, ⟨j, rfl, first⟩, by simpa using declared, by simpa using same⟩
      · rintro ⟨_, q, ⟨j, rfl, first⟩, declared, same⟩
        exact ⟨j, q, first, by simpa using declared, by simpa using same⟩
    · have here : 0 ∈ stuck (p :: ps) tokens := zero_mem_stuck_cons.mpr admits
      rw [stops admits, List.head?_eq_getElem?]
      constructor
      · intro answered
        cases answered
        exact ⟨0, p, ⟨here, fun _ _ => Nat.zero_le _⟩, rfl, rfl⟩
      · rintro ⟨i, q, ⟨-, least⟩, declared, rfl⟩
        obtain rfl : i = 0 := Nat.le_zero.mp (least here)
        cases declared
        rfl

private theorem stuck_eq (ps : List Parameter) (tokens : List String) :
    stuck ps tokens = misread ps tokens ∪ lacking ps tokens := by
  ext i
  cases given : tokens[i]? with
  | none =>
    have past : tokens.length ≤ i := List.getElem?_eq_none_iff.mp given
    simp [stuck, misread, lacking, past, Parameter.Admits]
  | some token =>
    have inside : i < tokens.length := (List.getElem?_eq_some_iff.mp given).1
    simp [stuck, misread, lacking, given, Nat.not_le.mpr inside, Parameter.Admits,
      Option.eq_none_iff_forall_ne_some]

private theorem misread_lt_lacking {i j : Nat} (wrong : i ∈ misread ps tokens)
    (absent : j ∈ lacking ps tokens) : i < j := by
  obtain ⟨-, token, -, given, -⟩ := wrong
  obtain ⟨-, -, past, -⟩ := absent
  have inside : i < tokens.length := (List.getElem?_eq_some_iff.mp given).1
  omega

/-- The fault of the first parameter that cannot be bound is that of a token without a value or, if
all tokens have values, that of a token that is missing. -/
private theorem refuses_of_isLeast_stuck {i : Nat} (first : IsLeast (stuck ps tokens) i)
    (declared : ps[i]? = some p) : Refuses ps tokens (p.faultOf tokens[i]?) := by
  obtain ⟨member, least⟩ := first
  rw [stuck_eq] at member least
  rcases member with wrong | absent
  · have firstWrong : IsLeast (misread ps tokens) i := ⟨wrong, fun j other => least (Or.inl other)⟩
    obtain ⟨-, token, -, given, -⟩ := wrong
    rw [given]
    exact .invalid firstWrong declared given
  · have firstAbsent : IsLeast (lacking ps tokens) i :=
      ⟨absent, fun j other => least (Or.inr other)⟩
    have read : misread ps tokens = ∅ := by
      apply Set.eq_empty_of_forall_notMem
      intro j wrong
      have before := misread_lt_lacking wrong absent
      have after : i ≤ j := least (Or.inl wrong)
      omega
    obtain ⟨-, -, past, -⟩ := absent
    rw [List.getElem?_eq_none_iff.mpr past]
    exact .missing read firstAbsent declared

private theorem refuses_iff (e : BindError) :
    Refuses ps tokens e ↔
      (∃ i q, IsLeast (stuck ps tokens) i ∧ ps[i]? = some q ∧ e = q.faultOf tokens[i]?) ∨
        stuck ps tokens = ∅ ∧ ps.length < tokens.length ∧
          e = .tooManyArguments ps.length tokens.length := by
  constructor
  · intro refused
    rw [stuck_eq]
    cases refused with
    | @invalid i p token first declared given =>
      have least : IsLeast (misread ps tokens ∪ lacking ps tokens) i := by
        refine ⟨Or.inl first.1, ?_⟩
        rintro j (wrong | absent)
        · exact first.2 wrong
        · exact (misread_lt_lacking first.1 absent).le
      exact Or.inl ⟨i, p, least, declared, by rw [given]; rfl⟩
    | @missing i p read first declared =>
      obtain ⟨-, -, past, -⟩ := first.1
      rw [read, Set.empty_union]
      exact Or.inl ⟨i, p, first, declared, by rw [List.getElem?_eq_none_iff.mpr past]; rfl⟩
    | surplus read complete many =>
      rw [read, complete, Set.empty_union]
      exact Or.inr ⟨rfl, many, rfl⟩
  · rintro (⟨i, q, first, declared, rfl⟩ | ⟨none, many, rfl⟩)
    · exact refuses_of_isLeast_stuck first declared
    · rw [stuck_eq, Set.union_empty_iff] at none
      exact .surplus none.1 none.2 many

private theorem exists_bindFrom_iff (bound : Arguments) :
    (∃ args, bindFrom bound ps tokens = .ok args) ↔ stuck ps tokens = ∅ := by
  constructor
  · rintro ⟨args, answered⟩
    by_contra notNone
    classical
    have some : ∃ i, i ∈ stuck ps tokens := Set.nonempty_iff_ne_empty.mpr notNone
    have first := Nat.isLeast_find some
    obtain ⟨p, declared, -⟩ := first.1
    have failed := (bindFrom_eq_error_iff bound _).mpr ⟨_, p, first, declared, rfl⟩
    rw [answered] at failed
    cases failed
  · intro none
    cases answered : bindFrom bound ps tokens with
    | ok args => exact ⟨args, rfl⟩
    | error e =>
      obtain ⟨i, p, first, -⟩ := (bindFrom_eq_error_iff bound e).mp answered
      rw [none] at first
      exact first.1.elim

end FirstFault

private theorem bind_eq_error_iff (ps : List Parameter) (tokens : List String) (e : BindError) :
    bind ps tokens = .error e ↔ Refuses ps tokens e := by
  rw [refuses_iff, ← bindFrom_eq_error_iff .empty, ← exists_bindFrom_iff .empty, bind]
  cases bindFrom .empty ps tokens with
  | error other => simp
  | ok bound =>
    by_cases many : ps.length < tokens.length
    · simp [many, eq_comm]
    · simp [many]

private theorem exists_bind_iff_faultless (ps : List Parameter) (tokens : List String) :
    (∃ args, bind ps tokens = .ok args) ↔
      misread ps tokens = ∅ ∧ lacking ps tokens = ∅ ∧ tokens.length ≤ ps.length := by
  simp only [bind_eq_ok_iff, exists_and_left, exists_bindFrom_iff, stuck_eq, Set.union_empty_iff]
  rw [and_comm, and_assoc]

/-- Tokens are refused with the first fault that applies, and bound if there is none. Then every
name that is bound is that of a parameter, which has taken the value of its own token or, where it
has none, its fallback. -/
theorem bind_answers_first_fault {ps : List Parameter}
    (distinct : (ps.map Parameter.name).Nodup) (tokens : List String) :
    (∀ e, bind ps tokens = .error e ↔ Refuses ps tokens e) ∧
      ((∃ args, bind ps tokens = .ok args) ↔
        misread ps tokens = ∅ ∧ lacking ps tokens = ∅ ∧ tokens.length ≤ ps.length) ∧
      ∀ args, bind ps tokens = .ok args → ∀ name v, args.get? name = some v ↔
        ∃ (i : Nat) (p : Parameter), ps[i]? = some p ∧ p.name = name ∧
          p.valueOf tokens[i]? = some v := by
  refine ⟨bind_eq_error_iff ps tokens, exists_bind_iff_faultless ps tokens, ?_⟩
  intro args answered name v
  exact (binds_of_bind distinct answered).get?_eq_some_iff name v

def sendParameters : List Parameter :=
  [⟨"mode", .choice ["fast", "safe"], false, some (.text "safe")⟩, .needed "amount" .integer,
    ⟨"note", .text, true, some (.text "-")⟩]

theorem bind_answers_first_fault_sendParameters :
    (sendParameters.map Parameter.name).Nodup ∧
      Refuses sendParameters ["FAST", "five"] (.invalidArgument "amount" "five" "int") ∧
      Refuses sendParameters ["FAST", "5"] (.missingArgument "note") ∧
      Refuses sendParameters ["FAST", "5", "", "x"] (.tooManyArguments 3 4) ∧
      ∃ args, bind sendParameters ["FAST", "5", ""] = .ok args ∧
        args.get? "mode" = some (.text "fast") := by
  have distinct : (sendParameters.map Parameter.name).Nodup := by decide
  have refused := fun tokens => (bind_answers_first_fault distinct tokens).1
  obtain ⟨-, -, bound⟩ := bind_answers_first_fault distinct ["FAST", "5", ""]
  have fast : ValueType.coerce (.choice ["fast", "safe"]) "FAST" = some (.text "fast") := by
    decide +kernel
  exact ⟨distinct, (refused _ _).mp rfl, (refused _ _).mp rfl, (refused _ _).mp rfl,
    _, rfl, (bound _ rfl "mode" _).mpr ⟨0, _, rfl, rfl, fast⟩⟩

end Arguments

end ProfileShell
