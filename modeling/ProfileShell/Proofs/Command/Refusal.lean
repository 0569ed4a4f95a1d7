import ProfileShell.Proofs.Command.Resolution

/-!
For which fault a command is refused.

The checks of a command are made in stages: on its names as such, on its parameters, on its names
among those that are taken, and on its signature. A stage looks at one element after another and
stops at the first that is at fault, where a fault may depend on the elements before. What is
answered is the fault of the first stage that has one; a refused command leaves no trace, and an
accepted one is found by its names and by no others.
-/

set_option autoImplicit false
set_option relaxedAutoImplicit false

namespace ProfileShell

section FirstFault

variable {α β : Type} {Faulty : List α → α → β → Prop}

def Faultless (Faulty : List α → α → β → Prop) (xs : List α) : Prop :=
  ∀ before x after, xs = before ++ x :: after → ∀ e, ¬Faulty before x e

/-- The fault of the first element that is at fault after the ones before it. -/
def FirstFault (Faulty : List α → α → β → Prop) (xs : List α) (e : β) : Prop :=
  ∃ before x after, xs = before ++ x :: after ∧ Faulty before x e ∧ Faultless Faulty before

private theorem faultless_nil : Faultless Faulty [] := by
  intro before x after split
  simp at split

private theorem same_or_before {earlier later before after : List α} {x y : α}
    (split : earlier ++ x :: later = before ++ y :: after) :
    (before = earlier ∧ y = x) ∨ (∃ gap, before = earlier ++ x :: gap) ∨
      ∃ gap, earlier = before ++ y :: gap := by
  rcases List.append_eq_append_iff.mp split with ⟨gap, front, back⟩ | ⟨gap, front, back⟩
  · cases gap with
    | nil => exact .inl ⟨by simpa using front, (List.cons.inj back).1.symm⟩
    | cons first gap =>
      obtain ⟨rfl, -⟩ := List.cons.inj back
      exact .inr (.inl ⟨gap, front⟩)
  · cases gap with
    | nil => exact .inl ⟨by simpa using front.symm, (List.cons.inj back).1⟩
    | cons first gap =>
      obtain ⟨rfl, -⟩ := List.cons.inj back
      exact .inr (.inr ⟨gap, front⟩)

private theorem Faultless.snoc {xs : List α} {x : α} (clean : Faultless Faulty xs)
    (fine : ∀ e, ¬Faulty xs x e) : Faultless Faulty (xs ++ [x]) := by
  intro before y after split
  rcases same_or_before split with ⟨rfl, rfl⟩ | ⟨gap, front⟩ | ⟨gap, front⟩
  · exact fine
  · have lengths := congrArg List.length split
    simp only [front, List.length_append, List.length_cons, List.length_nil] at lengths
    omega
  · exact clean before y gap front

private theorem Faultless.none_eq_some_iff {xs : List α} (clean : Faultless Faulty xs) (e : β) :
    none = some e ↔ FirstFault Faulty xs e := by
  constructor
  · intro impossible
    cases impossible
  · rintro ⟨before, x, after, split, faulty, -⟩
    exact (clean before x after split e faulty).elim

private theorem Faultless.some_eq_some_iff {earlier : List α} {x : α} {fault : β}
    (clean : Faultless Faulty earlier) (only : ∀ e, Faulty earlier x e ↔ e = fault)
    (later : List α) (e : β) :
    some fault = some e ↔ FirstFault Faulty (earlier ++ x :: later) e := by
  have here : Faulty earlier x fault := (only fault).mpr rfl
  rw [Option.some.injEq, eq_comm]
  constructor
  · rintro rfl
    exact ⟨earlier, x, later, rfl, here, clean⟩
  · rintro ⟨before, y, after, split, faulty, cleanToo⟩
    rcases same_or_before split with ⟨rfl, rfl⟩ | ⟨gap, front⟩ | ⟨gap, front⟩
    · exact (only e).mp faulty
    · exact (cleanToo earlier x gap front fault here).elim
    · exact (clean before y gap front e faulty).elim

end FirstFault

namespace Command

variable {C : Type}

inductive ParameterFault (command : String) (before : List Parameter) (p : Parameter) :
    RegistrationError → Prop
  | repeated (again : p.name ∈ before.map Parameter.name) :
      ParameterFault command before p (.duplicateArgument command p.name)
  | illegal (fresh : p.name ∉ before.map Parameter.name) (invalid : p.fallbackIsValid = false) :
      ParameterFault command before p (.invalidDefault command p.name)
  | late (fresh : p.name ∉ before.map Parameter.name) (valid : p.fallbackIsValid = true)
      (required : p.required = true) (after : ∃ q ∈ before, q.required = false) :
      ParameterFault command before p (.requiredAfterOptional command p.name)

namespace ParameterFault

variable {command : String} {before : List Parameter} {p : Parameter}

private theorem iff_of_repeated (again : p.name ∈ before.map Parameter.name)
    (e : RegistrationError) :
    ParameterFault command before p e ↔ e = .duplicateArgument command p.name := by
  constructor
  · intro faulty
    cases faulty with
    | repeated _ => rfl
    | illegal fresh _ => exact (fresh again).elim
    | late fresh _ _ _ => exact (fresh again).elim
  · rintro rfl
    exact .repeated again

private theorem iff_of_illegal (fresh : p.name ∉ before.map Parameter.name)
    (invalid : p.fallbackIsValid = false) (e : RegistrationError) :
    ParameterFault command before p e ↔ e = .invalidDefault command p.name := by
  constructor
  · intro faulty
    cases faulty with
    | repeated again => exact (fresh again).elim
    | illegal _ _ => rfl
    | late _ valid _ _ => simp [invalid] at valid
  · rintro rfl
    exact .illegal fresh invalid

private theorem iff_of_legal (fresh : p.name ∉ before.map Parameter.name)
    (valid : p.fallbackIsValid = true) (e : RegistrationError) :
    ParameterFault command before p e ↔
      (p.required = true ∧ ∃ q ∈ before, q.required = false) ∧
        e = .requiredAfterOptional command p.name := by
  constructor
  · intro faulty
    cases faulty with
    | repeated again => exact (fresh again).elim
    | illegal _ invalid => simp [invalid] at valid
    | late _ _ required after => exact ⟨⟨required, after⟩, rfl⟩
  · rintro ⟨⟨required, after⟩, rfl⟩
    exact .late fresh valid required after

end ParameterFault

/-- The check of parameters answers the first fault; `seen` and `optionalSeen` are what it knows of
the parameters before. -/
private theorem parameterFault_eq_some_iff (command : String) {earlier : List Parameter}
    (clean : Faultless (ParameterFault command) earlier) {seen : List String} {optionalSeen : Bool}
    (names : ∀ name, name ∈ seen ↔ name ∈ earlier.map Parameter.name)
    (optional : optionalSeen = true ↔ ∃ q ∈ earlier, q.required = false) (ps : List Parameter)
    (e : RegistrationError) :
    parameterFault command seen optionalSeen ps = some e ↔
      FirstFault (ParameterFault command) (earlier ++ ps) e := by
  -- The parameters that have been looked at move to the earlier ones.
  induction ps generalizing earlier seen optionalSeen with
  | nil =>
    rw [List.append_nil]
    exact clean.none_eq_some_iff e
  | cons p ps ih =>
    have known : seen.contains p.name = true ↔ p.name ∈ earlier.map Parameter.name := by
      rw [List.contains_iff_mem, names]
    rw [parameterFault]
    split
    · rename_i again
      exact clean.some_eq_some_iff (ParameterFault.iff_of_repeated (known.mp again)) ps e
    · rename_i unseen
      have fresh := mt known.mpr unseen
      split
      · rename_i invalid
        have invalid : p.fallbackIsValid = false := by simpa using invalid
        exact clean.some_eq_some_iff (ParameterFault.iff_of_illegal fresh invalid) ps e
      · rename_i valid
        have valid : p.fallbackIsValid = true := by simpa using valid
        have legal := fun e => @ParameterFault.iff_of_legal command earlier p fresh valid e
        have late : (p.required && optionalSeen) = true ↔
            p.required = true ∧ ∃ q ∈ earlier, q.required = false := by
          rw [Bool.and_eq_true, optional]
        split
        · rename_i isLate
          have only : ∀ e, ParameterFault command earlier p e ↔
              e = .requiredAfterOptional command p.name := by
            intro e
            rw [legal, and_iff_right (late.mp isLate)]
          exact clean.some_eq_some_iff only ps e
        · rename_i early
          have fine : ∀ e, ¬ParameterFault command earlier p e := by
            intro e faulty
            exact early (late.mpr ((legal e).mp faulty).1)
          have namesNext : ∀ name, name ∈ p.name :: seen ↔
              name ∈ (earlier ++ [p]).map Parameter.name := by
            intro name
            rw [List.mem_cons, names, List.map_append, List.mem_append, or_comm]
            simp
          have optionalNext : (optionalSeen || !p.required) = true ↔
              ∃ q ∈ earlier ++ [p], q.required = false := by
            rw [Bool.or_eq_true, optional]
            simp [or_and_right, exists_or]
          rw [List.append_cons]
          exact ih (clean.snoc fine) namesNext optionalNext

private theorem fault_eq_some_iff (c : Command C) (e : RegistrationError) :
    c.fault = some e ↔
      ("" ∈ c.names ∧ e = .emptyName) ∨
        "" ∉ c.names ∧ FirstFault (ParameterFault c.name) c.parameters e := by
  have unnamed : c.names.any String.isEmpty = true ↔ "" ∈ c.names := by
    simp only [List.any_eq_true, String.isEmpty_iff, exists_eq_right]
  have noNames : ∀ name, name ∈ ([] : List String) ↔
      name ∈ ([] : List Parameter).map Parameter.name := by simp
  have noOptional : false = true ↔ ∃ q ∈ ([] : List Parameter), q.required = false := by simp
  have parameters := parameterFault_eq_some_iff c.name faultless_nil noNames noOptional
    c.parameters e
  rw [fault]
  by_cases empty : "" ∈ c.names
  · rw [if_pos (unnamed.mpr empty)]
    simp [empty, eq_comm]
  · rw [if_neg (mt unnamed.mp empty), parameters]
    simp [empty]

end Command

namespace Registry

open Command (builtinNames normalize ParameterFault)

variable {C : Type}

inductive NameFault (r : Registry C) (before : List String) (name : String) :
    RegistrationError → Prop
  | reserved (builtin : name ∈ builtinNames) : NameFault r before name (.reservedName name)
  | taken (free : name ∉ builtinNames)
      (owned : name ∈ r.commands.flatMap Command.names ∨ name ∈ before) :
      NameFault r before name (.duplicateName name)

/-- A registered command takes the same kinds of arguments as another one. -/
def SignatureFault (c : Command C) (_ : List (Command C)) (d : Command C)
    (e : RegistrationError) : Prop :=
  d.kinds = c.kinds ∧ e = .overlappingSignature c.name d.name c.signature

/-- The errors with which a registry refuses a command. -/
inductive Refuses (r : Registry C) (c : Command C) : RegistrationError → Prop
  | unnamed (empty : "" ∈ c.names) : Refuses r c .emptyName
  | parameter {e : RegistrationError} (named : "" ∉ c.names)
      (first : FirstFault (ParameterFault c.name) c.parameters e) : Refuses r c e
  | name {e : RegistrationError} (named : "" ∉ c.names)
      (legal : ∀ e, ¬FirstFault (ParameterFault c.name) c.parameters e)
      (first : FirstFault r.NameFault c.names e) : Refuses r c e
  | signature {e : RegistrationError} (named : "" ∉ c.names)
      (legal : ∀ e, ¬FirstFault (ParameterFault c.name) c.parameters e)
      (free : ∀ e, ¬FirstFault r.NameFault c.names e) (rejects : r.policy = .reject)
      (first : FirstFault (SignatureFault c) r.commands e) : Refuses r c e

namespace NameFault

variable {r : Registry C} {before : List String} {name : String}

private theorem iff_of_builtin (builtin : name ∈ builtinNames) (e : RegistrationError) :
    r.NameFault before name e ↔ e = .reservedName name := by
  constructor
  · intro faulty
    cases faulty with
    | reserved _ => rfl
    | taken free _ => exact (free builtin).elim
  · rintro rfl
    exact .reserved builtin

private theorem iff_of_not_builtin (free : name ∉ builtinNames) (e : RegistrationError) :
    r.NameFault before name e ↔
      (name ∈ r.commands.flatMap Command.names ∨ name ∈ before) ∧ e = .duplicateName name := by
  constructor
  · intro faulty
    cases faulty with
    | reserved builtin => exact (free builtin).elim
    | taken _ owned => exact ⟨owned, rfl⟩
  · rintro ⟨owned, rfl⟩
    exact .taken free owned

end NameFault

/-- The check of names answers the first fault; `seen` is what it knows of the names before. -/
private theorem Sound.nameFault_eq_some_iff {r : Registry C} (sound : r.Sound)
    {earlier : List String} (clean : Faultless r.NameFault earlier) {seen : List String}
    (same : ∀ name, name ∈ seen ↔ name ∈ earlier) (names : List String) (e : RegistrationError) :
    r.nameFault seen names = some e ↔ FirstFault r.NameFault (earlier ++ names) e := by
  induction names generalizing earlier seen with
  | nil =>
    rw [List.append_nil]
    exact clean.none_eq_some_iff e
  | cons name names ih =>
    have known : (r.index.contains name || seen.contains name) = true ↔
        name ∈ r.commands.flatMap Command.names ∨ name ∈ earlier := by
      have indexed : r.index.contains name = true ↔ name ∈ r.commands.flatMap Command.names := by
        rw [← Bool.not_eq_false, TextMap.contains_eq_false_iff, sound.get?_eq_none_iff, not_not]
      rw [Bool.or_eq_true, indexed, List.contains_iff_mem, same]
    rw [nameFault]
    split
    · rename_i builtin
      have builtin : name ∈ builtinNames := by simpa using builtin
      exact clean.some_eq_some_iff (NameFault.iff_of_builtin builtin) names e
    · rename_i free
      have free : name ∉ builtinNames := by simpa using free
      split
      · rename_i taken
        have only : ∀ e, r.NameFault earlier name e ↔ e = .duplicateName name := by
          intro e
          rw [NameFault.iff_of_not_builtin free, and_iff_right (known.mp taken)]
        exact clean.some_eq_some_iff only names e
      · rename_i untaken
        have fine : ∀ e, ¬r.NameFault earlier name e := by
          intro e faulty
          exact untaken (known.mpr ((NameFault.iff_of_not_builtin free e).mp faulty).1)
        have sameNext : ∀ other, other ∈ name :: seen ↔ other ∈ earlier ++ [name] := by
          intro other
          rw [List.mem_cons, same, List.mem_append, List.mem_singleton, or_comm]
        rw [List.append_cons]
        exact ih (clean.snoc fine) sameNext

private theorem faultless_signatureFault_iff (c : Command C) (ds : List (Command C)) :
    Faultless (SignatureFault c) ds ↔ ∀ d ∈ ds, d.kinds ≠ c.kinds := by
  constructor
  · intro clean d member same
    obtain ⟨before, after, split⟩ := List.append_of_mem member
    exact clean before d after split _ ⟨same, rfl⟩
  · rintro apart before d after rfl e ⟨same, -⟩
    exact apart d (by simp) same

private theorem overlapFault_eq_some_iff (r : Registry C) (c : Command C) (e : RegistrationError) :
    r.overlapFault c = some e ↔
      r.policy = .reject ∧ FirstFault (SignatureFault c) r.commands e := by
  have answered : r.overlapFault c = some e ↔ r.policy = .reject ∧
      ∃ d, r.overlapping c = some d ∧
        e = .overlappingSignature c.name d.name c.signature := by
    rw [overlapFault]
    cases r.policy <;> cases r.overlapping c <;> simp [eq_comm]
  rw [answered]
  refine and_congr_right fun _ => ?_
  simp only [overlapping, List.find?_eq_some_iff_append, Command.overlaps_iff, Bool.not_eq_true',
    ← Bool.not_eq_true]
  constructor
  · rintro ⟨d, ⟨same, before, after, split, apart⟩, rfl⟩
    have clean := (faultless_signatureFault_iff c before).mpr apart
    exact ⟨before, d, after, split, ⟨same, rfl⟩, clean⟩
  · rintro ⟨before, d, after, split, ⟨same, rfl⟩, clean⟩
    have apart := (faultless_signatureFault_iff c before).mp clean
    exact ⟨d, ⟨same, before, after, split, apart⟩, rfl⟩

private theorem Sound.fault_eq_some_iff {r : Registry C} (sound : r.Sound) (c : Command C)
    (e : RegistrationError) : r.fault c = some e ↔ r.Refuses c e := by
  have own := Command.fault_eq_some_iff c
  have ownPasses : c.fault = none ↔
      "" ∉ c.names ∧ ∀ e, ¬FirstFault (ParameterFault c.name) c.parameters e := by
    simp only [Option.eq_none_iff_forall_ne_some, ne_eq, own, not_or, not_and]
    constructor
    · intro passes
      have named : "" ∉ c.names := fun empty => (passes .emptyName).1 empty rfl
      exact ⟨named, fun e => (passes e).2 named⟩
    · rintro ⟨named, legal⟩ e
      exact ⟨fun empty => (named empty).elim, fun _ => legal e⟩
  have names : ∀ e, r.nameFault [] c.names = some e ↔ FirstFault r.NameFault c.names e :=
    sound.nameFault_eq_some_iff faultless_nil (fun _ => Iff.rfl) c.names
  have namesPass : r.nameFault [] c.names = none ↔ ∀ e, ¬FirstFault r.NameFault c.names e := by
    simp only [Option.eq_none_iff_forall_ne_some, ne_eq, names]
  rw [fault, Option.or_eq_some_iff, Option.or_eq_some_iff, own, ownPasses, names, namesPass,
    overlapFault_eq_some_iff]
  constructor
  · rintro ((⟨empty, rfl⟩ | ⟨named, first⟩) | ⟨⟨named, legal⟩, first | ⟨free, rejects, first⟩⟩)
    · exact .unnamed empty
    · exact .parameter named first
    · exact .name named legal first
    · exact .signature named legal free rejects first
  · intro refused
    cases refused with
    | unnamed empty => exact .inl (.inl ⟨empty, rfl⟩)
    | parameter named first => exact .inl (.inr ⟨named, first⟩)
    | name named legal first => exact .inr ⟨⟨named, legal⟩, .inl first⟩
    | signature named legal free rejects first =>
      exact .inr ⟨⟨named, legal⟩, .inr ⟨free, rejects, first⟩⟩

private theorem Sound.accepts_iff {r : Registry C} (sound : r.Sound) (c : Command C) :
    r.Accepts c ↔ ∀ e, ¬r.Refuses c e := by
  rw [← fault_eq_none_iff, Option.eq_none_iff_forall_ne_some]
  simp only [ne_eq, sound.fault_eq_some_iff]

private theorem Sound.run_register_of_refuses {r : Registry C} (sound : r.Sound) {c : Command C}
    {e : RegistrationError} (refuses : r.Refuses c e) :
    Action.run (Registry.register c).run r = ⟨.error e, r, []⟩ := by
  rw [run_register, (sound.fault_eq_some_iff c e).mpr refuses]

private theorem run_register_of_accepts {r : Registry C} {c : Command C} (accepts : r.Accepts c) :
    Action.run (register c).run r = ⟨.ok (), r.add c, r.acceptedLog c⟩ := by
  rw [run_register, (fault_eq_none_iff r c).mpr accepts]

/-- A command is refused for the first fault that applies, and then nothing changes; it is accepted
if it has no fault, and then it comes last, is found by each of its names, and takes no other name.
-/
theorem register_answers_first_fault {r : Registry C} (reachable : r.Reachable) {c : Command C}
    (defined : c.IsDefined) :
    let run := Action.run (register c).run r
    (∀ e, run.answer = .error e ↔ r.Refuses c e) ∧
      (run.answer = .ok () ↔ ∀ e, ¬r.Refuses c e) ∧
      (run.answer = .ok () ↔ r.Accepts c) ∧
      (∀ e, run.answer = .error e → run.state = r) ∧
      (run.answer = .ok () →
        run.state.policy = r.policy ∧
          run.state.commands = r.commands ++ [c] ∧
          (∀ name ∈ c.names, run.state.lookup name = some c) ∧
          ∀ name, normalize name ∉ c.names → run.state.lookup name = r.lookup name) := by
  have sound := reachable.sound
  have accepts := sound.accepts_iff c
  intro run
  by_cases refused : ∃ e, r.Refuses c e
  · obtain ⟨e, refuses⟩ := refused
    have ended : run = ⟨.error e, r, []⟩ := sound.run_register_of_refuses refuses
    have rejected : ¬r.Accepts c := fun legal => accepts.mp legal e refuses
    have only : ∀ other, r.Refuses c other ↔ e = other := by
      intro other
      have found := (sound.fault_eq_some_iff c e).mpr refuses
      rw [← sound.fault_eq_some_iff, found, Option.some.injEq]
    rw [ended]
    simp [rejected, only]
  · have legal : r.Accepts c := accepts.mpr fun e refuses => refused ⟨e, refuses⟩
    have ended : run = ⟨.ok (), r.add c, r.acceptedLog c⟩ := run_register_of_accepts legal
    have own : ∀ name ∈ c.names, (r.add c).lookup name = some c := by
      intro name member
      rw [sound.lookup_add, defined.normalize_name member, if_pos member]
    have others : ∀ name, normalize name ∉ c.names → (r.add c).lookup name = r.lookup name := by
      intro name other
      rw [sound.lookup_add, if_neg other]
    rw [ended]
    refine ⟨fun e => ?_, by simp [← accepts, legal], by simp [legal], by simp, fun _ => ?_⟩
    · simp [accepts.mp legal e]
    · exact ⟨rfl, commands_add r c, own, others⟩

def manyFaults : Command Tally :=
  .define "Sum" ["help", "add", "EXIT"] [.needed "amount" .integer] "" (Tally.handler .echo)

theorem register_answers_first_fault_manyFaults :
    let r := (Action.run (attemptAll threeCommands) (new .reject)).state
    r.Reachable ∧ manyFaults.IsDefined ∧ r.Refuses manyFaults (.reservedName "help") := by
  intro r
  have reachable : r.Reachable := ⟨.reject, threeCommands, isDefined_threeCommands, rfl⟩
  have defined : manyFaults.IsDefined := Command.isDefined_define _ _ _ _ _
  have answers := (register_answers_first_fault reachable defined).1 (.reservedName "help")
  refine ⟨reachable, defined, answers.mp ?_⟩
  decide +kernel

end Registry

end ProfileShell
