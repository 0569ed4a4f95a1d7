import ProfileShell.Proofs.Command.Permutation

/-!
What the policy on clashes of signatures decides.

The policy is read where a command is checked against the registered ones, and where an accepted
command is logged. Registries that differ in it alone answer every line alike, and they stay so as
long as they answer the calls of registration alike. A call that they do not answer alike is one
that meets a registered command with the same signature and that only the strict policy refuses.
-/

set_option autoImplicit false
set_option relaxedAutoImplicit false

namespace ProfileShell.Registry

open Command (dispatch)

variable {C : Type} {r q : Registry C}

/-- Two registries that differ in their policy at most. -/
structure SameContents (r q : Registry C) : Prop where
  commands : r.commands = q.commands
  index : r.index = q.index

/-- Two registries that list the same commands, find the same command under every name, offer the
same continuations and do the same on every line. -/
structure ActsAlike (r q : Registry C) : Prop where
  commands : r.commands = q.commands
  lookup : ∀ name, r.lookup name = q.lookup name
  completions : ∀ word, r.completions word = q.completions word
  dispatch : ∀ text, dispatch r text = dispatch q text

private theorem sameContents_new (p p' : OverlapPolicy) :
    (new p : Registry C).SameContents (new p') :=
  ⟨rfl, rfl⟩

private theorem SameContents.actsAlike (same : r.SameContents q) : r.ActsAlike q := by
  obtain ⟨policy, commands, index⟩ := r
  obtain ⟨rfl, rfl⟩ := same
  exact ⟨rfl, fun _ => rfl, fun _ => rfl, fun _ => rfl⟩

section Call

variable {c : Command C}

private theorem SameContents.overlapping (same : r.SameContents q) (c : Command C) :
    r.overlapping c = q.overlapping c := by
  rw [Registry.overlapping, Registry.overlapping, same.commands]

private theorem SameContents.add (same : r.SameContents q) (c : Command C) :
    (r.add c).SameContents (q.add c) := by
  obtain ⟨commands, index⟩ := same
  refine ⟨?_, ?_⟩
  · rw [commands_add, commands_add, commands]
  · simp only [Registry.add, commands, index]

private theorem mem_of_overlapping {existing : Command C}
    (clash : r.overlapping c = some existing) :
    existing ∈ r.commands ∧ existing.kinds = c.kinds := by
  have overlaps := List.find?_some clash
  exact ⟨List.mem_of_find?_eq_some clash, (Command.overlaps_iff existing c).mp overlaps⟩

private theorem overlapFault_of_not_overlapping (apart : r.overlapping c = none) :
    r.overlapFault c = none := by
  rw [overlapFault, apart]
  cases r.policy <;> rfl

private theorem overlapFault_of_lenient (lenient : r.policy ≠ .reject) (c : Command C) :
    r.overlapFault c = none :=
  (overlapFault_eq_none_iff r c).mpr fun strict => absurd strict lenient

private theorem overlapping_eq_none (strict : r.policy = .reject) (accepted : r.fault c = none) :
    r.overlapping c = none := by
  have apart := ((fault_eq_none_iff r c).mp accepted).apart strict
  apply List.find?_eq_none.mpr
  intro existing member overlaps
  exact apart existing member ((Command.overlaps_iff existing c).mp overlaps)

private theorem SameContents.fault (same : r.SameContents q)
    (clash : r.overlapFault c = q.overlapFault c) : r.fault c = q.fault c := by
  rw [Registry.fault, Registry.fault, nameFault_congr same.index, clash]

private theorem SameContents.fault_of_lenient (same : r.SameContents q) (first : r.policy ≠ .reject)
    (second : q.policy ≠ .reject) (c : Command C) : r.fault c = q.fault c := by
  apply same.fault
  rw [overlapFault_of_lenient first, overlapFault_of_lenient second]

private theorem SameContents.fault_of_not_overlapping (same : r.SameContents q)
    (apart : r.overlapping c = none) : r.fault c = q.fault c := by
  apply same.fault
  rw [overlapFault_of_not_overlapping apart,
    overlapFault_of_not_overlapping ((same.overlapping c).symm.trans apart)]

private theorem SameContents.fault_eq_or (same : r.SameContents q) (strict : r.policy = .reject)
    (lenient : q.policy ≠ .reject) (c : Command C) :
    r.fault c = q.fault c ∨
      q.fault c = none ∧ ∃ existing ∈ r.commands, existing.kinds = c.kinds ∧
        r.fault c = some (.overlappingSignature c.name existing.name c.signature) := by
  cases clash : r.overlapping c with
  | none => exact .inl (same.fault_of_not_overlapping clash)
  | some existing =>
    have strictly : r.overlapFault c =
        some (.overlappingSignature c.name existing.name c.signature) := by
      rw [overlapFault, strict, clash]
    have leniently := overlapFault_of_lenient lenient c
    simp only [Registry.fault, nameFault_congr same.index, strictly, leniently]
    -- What is found before the signatures are compared is found under either policy.
    cases c.fault with
    | some e => exact .inl rfl
    | none =>
      cases q.nameFault [] c.names with
      | some e => exact .inl rfl
      | none =>
        obtain ⟨member, kinds⟩ := mem_of_overlapping clash
        exact .inr ⟨rfl, existing, member, kinds, rfl⟩

private theorem policy_register (r : Registry C) (c : Command C) :
    (Action.run (register c).run r).state.policy = r.policy := by
  rw [run_register]
  cases r.fault c <;> rfl

private theorem SameContents.after_register (same : r.SameContents q)
    (fault : r.fault c = q.fault c) :
    (Action.run (register c).run r).answer = (Action.run (register c).run q).answer ∧
      (Action.run (register c).run r).state.SameContents
        (Action.run (register c).run q).state := by
  rw [run_register, run_register, fault]
  cases q.fault c with
  | some e => exact ⟨rfl, same⟩
  | none => exact ⟨rfl, same.add c⟩

private theorem level_ne_warn_of_not_overlapping (apart : r.overlapping c = none) :
    ∀ record ∈ (Action.run (Registry.register c).run r).log, record.level ≠ .warn := by
  have registered : r.acceptedLog c =
      [⟨.debug, s!"registered command '{c.name}' ({c.usage})"⟩] := by
    rw [acceptedLog, apart]
    cases r.policy <;> rfl
  rw [run_register]
  cases r.fault c with
  | some e => simp
  | none => simp [registered]

end Call

/-! ### Runs -/

private theorem answer_attemptAll_cons (r : Registry C) (c : Command C) (cs : List (Command C)) :
    (Action.run (attemptAll (c :: cs)) r).answer =
      (Action.run (register c).run r).answer ::
        (Action.run (attemptAll cs) (Action.run (register c).run r).state).answer := rfl

private theorem log_attemptAll_cons (r : Registry C) (c : Command C) (cs : List (Command C)) :
    (Action.run (attemptAll (c :: cs)) r).log =
      (Action.run (register c).run r).log ++
        (Action.run (attemptAll cs) (Action.run (register c).run r).state).log := by
  simp only [attemptAll, Action.run_bind, Action.run_pure, List.append_nil]

private theorem SameContents.attemptAll_of_lenient (same : r.SameContents q)
    (first : r.policy ≠ .reject) (second : q.policy ≠ .reject) (cs : List (Command C)) :
    (Action.run (attemptAll cs) r).answer = (Action.run (attemptAll cs) q).answer ∧
      (Action.run (attemptAll cs) r).state.SameContents
        (Action.run (attemptAll cs) q).state := by
  induction cs generalizing r q with
  | nil => exact ⟨rfl, same⟩
  | cons c cs ih =>
    obtain ⟨answer, next⟩ := same.after_register (same.fault_of_lenient first second c)
    rw [← policy_register r c] at first
    rw [← policy_register q c] at second
    obtain ⟨answers, contents⟩ := ih next first second
    rw [answer_attemptAll_cons, answer_attemptAll_cons, answer, answers]
    exact ⟨rfl, contents⟩

private theorem SameContents.attemptAll_of_allAccepted (same : r.SameContents q)
    (strict : r.policy = .reject) {cs : List (Command C)} (accepted : r.AllAccepted cs) :
    (Action.run (attemptAll cs) q).answer = (Action.run (attemptAll cs) r).answer ∧
      (Action.run (attemptAll cs) q).state.SameContents (Action.run (attemptAll cs) r).state ∧
      ∀ record ∈ (Action.run (attemptAll cs) q).log, record.level ≠ .warn := by
  induction cs generalizing r q with
  | nil =>
    refine ⟨rfl, ⟨same.commands.symm, same.index.symm⟩, ?_⟩
    intro record impossible
    cases impossible
  | cons c cs ih =>
    have faultless : r.fault c = none := ((allAccepted_cons r c cs).mp accepted).1
    have apart := overlapping_eq_none strict faultless
    obtain ⟨answer, next⟩ := same.after_register (same.fault_of_not_overlapping apart)
    have rest : (Action.run (register c).run r).state.AllAccepted cs := fun answer member =>
      accepted answer (List.mem_cons_of_mem _ member)
    obtain ⟨answers, contents, quiet⟩ := ih next ((policy_register r c).trans strict) rest
    rw [answer_attemptAll_cons, answer_attemptAll_cons, answer, answers, log_attemptAll_cons]
    refine ⟨rfl, contents, ?_⟩
    intro record member
    rcases List.mem_append.mp member with here | later
    · exact level_ne_warn_of_not_overlapping ((same.overlapping c).symm.trans apart) record here
    · exact quiet record later

/-- The first call that a strict and a lenient registry answer differently meets registries with the
same contents, and a registered command with its signature, for which only the strict one refuses
it. -/
private theorem SameContents.first_difference (same : r.SameContents q)
    (strict : r.policy = .reject) (lenient : q.policy ≠ .reject) {cs : List (Command C)} {i : Nat}
    (before : ∀ j < i, (Action.run (attemptAll cs) r).answer[j]? =
      (Action.run (attemptAll cs) q).answer[j]?)
    (differs : (Action.run (attemptAll cs) r).answer[i]? ≠
      (Action.run (attemptAll cs) q).answer[i]?) :
    (Action.run (attemptAll (cs.take i)) r).state.SameContents
        (Action.run (attemptAll (cs.take i)) q).state ∧
      ∃ c, cs[i]? = some c ∧ (Action.run (attemptAll cs) q).answer[i]? = some (.ok ()) ∧
        ∃ existing ∈ (Action.run (attemptAll (cs.take i)) r).state.commands,
          existing.kinds = c.kinds ∧
          (Action.run (attemptAll cs) r).answer[i]? =
            some (.error (.overlappingSignature c.name existing.name c.signature)) := by
  induction cs generalizing r q i with
  | nil => exact absurd rfl differs
  | cons c cs ih =>
    simp only [answer_attemptAll_cons] at before differs ⊢
    cases i with
    | zero =>
      refine ⟨same, c, rfl, ?_⟩
      rcases same.fault_eq_or strict lenient c with
        agree | ⟨accepts, existing, member, kinds, refuses⟩
      · have answer := (same.after_register agree).1
        rw [List.getElem?_cons_zero, List.getElem?_cons_zero, answer] at differs
        exact absurd rfl differs
      · rw [run_register, run_register, accepts, refuses]
        exact ⟨rfl, existing, member, kinds, rfl⟩
    | succ i =>
      have first := before 0 (Nat.succ_pos i)
      simp only [List.getElem?_cons_zero, Option.some.injEq] at first
      have agree : r.fault c = q.fault c := by
        rw [run_register, run_register] at first
        rcases same.fault_eq_or strict lenient c with agree | ⟨accepts, existing, -, -, refuses⟩
        · exact agree
        · rw [accepts, refuses] at first
          cases first
      have next := (same.after_register agree).2
      exact ih next ((policy_register r c).trans strict)
        (fun strict => lenient ((policy_register q c).symm.trans strict))
        (fun j less => before (j + 1) (Nat.succ_lt_succ less)) differs

/-- The policies differ only in what they refuse. To warn of clashing signatures and to allow them
leads to the same answers and to registries that act alike. What is accepted altogether where
clashes are refused is so under every policy, leads to registries that act alike, and is logged
without a warning. And where refusing and allowing clashes first differ, a command is refused
because a command that was registered before has its signature. -/
theorem policies_differ_in_refusals (cs : List (Command C)) :
    let run (policy : OverlapPolicy) := Action.run (attemptAll cs) (new policy)
    ((run .warn).answer = (run .allow).answer ∧ (run .warn).state.ActsAlike (run .allow).state) ∧
    ((new .reject).AllAccepted cs → ∀ policy,
      (new policy).AllAccepted cs ∧ (run policy).state.ActsAlike (run .reject).state ∧
        ∀ record ∈ (run policy).log, record.level ≠ .warn) ∧
    ∀ i, (∀ j < i, (run .reject).answer[j]? = (run .allow).answer[j]?) →
      (run .reject).answer[i]? ≠ (run .allow).answer[i]? →
        let earlier (policy : OverlapPolicy) := Action.run (attemptAll (cs.take i)) (new policy)
        (earlier .reject).state.ActsAlike (earlier .allow).state ∧
          ∃ c, cs[i]? = some c ∧ (run .allow).answer[i]? = some (.ok ()) ∧
            ∃ existing ∈ (earlier .reject).state.commands, existing.kinds = c.kinds ∧
              (run .reject).answer[i]? =
                some (.error (.overlappingSignature c.name existing.name c.signature)) := by
  intro run
  refine ⟨?_, ?_, ?_⟩
  · obtain ⟨answers, contents⟩ := (sameContents_new .warn .allow).attemptAll_of_lenient
      OverlapPolicy.noConfusion OverlapPolicy.noConfusion cs
    exact ⟨answers, contents.actsAlike⟩
  · intro accepted policy
    obtain ⟨answers, contents, quiet⟩ :=
      (sameContents_new .reject policy).attemptAll_of_allAccepted rfl accepted
    refine ⟨?_, contents.actsAlike, quiet⟩
    rw [AllAccepted, answers]
    exact accepted
  · intro i before differs
    obtain ⟨contents, refused⟩ := (sameContents_new .reject .allow).first_difference rfl
      OverlapPolicy.noConfusion before differs
    exact ⟨contents.actsAlike, refused⟩

def subtract : Command Tally :=
  .define "subtract" [] [.needed "number" .integer] "" (Tally.handler .echo)

theorem policies_differ_in_refusals_subtract :
    let run (policy : OverlapPolicy) :=
      Action.run (attemptAll (addAndReset ++ [subtract])) (new policy)
    (∀ j < 2, (run .reject).answer[j]? = (run .allow).answer[j]?) ∧
      (run .reject).answer[2]? ≠ (run .allow).answer[2]? ∧
      (run .allow).answer[2]? = some (.ok ()) ∧
      ∃ existing, (run .reject).answer[2]? =
        some (.error (.overlappingSignature "subtract" existing "int")) := by
  intro run
  have before : ∀ j < 2, (run .reject).answer[j]? = (run .allow).answer[j]? := by decide +kernel
  have differs : (run .reject).answer[2]? ≠ (run .allow).answer[2]? := by decide +kernel
  obtain ⟨-, -, first⟩ := policies_differ_in_refusals (addAndReset ++ [subtract])
  obtain ⟨-, c, given, accepts, existing, -, -, refuses⟩ := first 2 before differs
  have same : c = subtract := (Option.some.inj given).symm
  have name : subtract.name = "subtract" := by decide +kernel
  have signature : subtract.signature = "int" := by decide +kernel
  rw [same, name, signature] at refuses
  exact ⟨before, differs, accepts, existing.name, refuses⟩

end ProfileShell.Registry
