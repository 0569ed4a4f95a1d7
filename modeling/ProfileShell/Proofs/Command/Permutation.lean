import ProfileShell.Proofs.Command.Resolution

/-!
The order of registration.

Commands can all be registered exactly if they are compatible with each other, and this does not
depend on their order. The registries that come of two orders find the same commands and offer the
same continuations, so only the list of all commands tells the orders apart.
-/

set_option autoImplicit false
set_option relaxedAutoImplicit false

namespace ProfileShell.Registry

open Command (builtinNames dispatch IsListingLine normalize)

variable {C : Type}

structure Compatible (policy : OverlapPolicy) (cs : List (Command C)) : Prop where
  nonempty : ∀ c ∈ cs, ∀ name ∈ c.names, name ≠ ""
  free : ∀ c ∈ cs, ∀ name ∈ c.names, name ∉ builtinNames
  legal : ∀ c ∈ cs, Command.AreLegal c.parameters
  nodup : (cs.flatMap Command.names).Nodup
  apart : policy = .reject → cs.Pairwise fun c d => c.kinds ≠ d.kinds

private theorem Compatible.perm {policy : OverlapPolicy} {cs ds : List (Command C)}
    (compatible : Compatible policy cs) (permuted : cs.Perm ds) : Compatible policy ds where
  nonempty c member := compatible.nonempty c (permuted.mem_iff.mpr member)
  free c member := compatible.free c (permuted.mem_iff.mpr member)
  legal c member := compatible.legal c (permuted.mem_iff.mpr member)
  nodup := (permuted.flatMap_right Command.names).nodup compatible.nodup
  apart policy := by
    -- That two commands take arguments of different kinds says the same of both.
    have symmetric : ∀ {c d : Command C}, c.kinds ≠ d.kinds → d.kinds ≠ c.kinds := Ne.symm
    exact (permuted.pairwise_iff symmetric).mp (compatible.apart policy)

private theorem Compatible.left {policy : OverlapPolicy} {cs ds : List (Command C)}
    (compatible : Compatible policy (cs ++ ds)) : Compatible policy cs where
  nonempty c member := compatible.nonempty c (List.mem_append_left ds member)
  free c member := compatible.free c (List.mem_append_left ds member)
  legal c member := compatible.legal c (List.mem_append_left ds member)
  nodup := by
    have names := compatible.nodup
    rw [List.flatMap_append] at names
    exact (List.nodup_append.mp names).1
  apart policy := (List.pairwise_append.mp (compatible.apart policy)).1

private theorem Sound.compatible {r : Registry C} (sound : r.Sound) :
    Compatible r.policy r.commands where
  nonempty c member name own := (sound.usable c member name own).nonempty
  free c member name own := (sound.usable c member name own).free
  legal := sound.legal
  nodup := sound.nodup
  apart := sound.apart

private theorem Sound.accepts_of_compatible {r : Registry C} (sound : r.Sound) {c : Command C}
    (compatible : Compatible r.policy (r.commands ++ [c])) : r.Accepts c := by
  have last : c ∈ r.commands ++ [c] := List.mem_append_right _ (List.mem_singleton_self c)
  have names := compatible.nodup
  rw [List.flatMap_append, List.flatMap_singleton] at names
  obtain ⟨-, nodup, disjoint⟩ := List.nodup_append.mp names
  refine ⟨compatible.nonempty c last, compatible.legal c last, compatible.free c last, ?_, nodup,
    ?_⟩
  · intro name own
    apply (sound.get?_eq_none_iff name).mpr
    intro owned
    exact disjoint name owned name own rfl
  · intro policy d member
    have kinds := (List.pairwise_append.mp (compatible.apart policy)).2.2
    exact kinds d member c (List.mem_singleton_self c)

/-- Every call of registration is answered by a success. -/
def AllAccepted (r : Registry C) (cs : List (Command C)) : Prop :=
  ∀ answer ∈ (Action.run (attemptAll cs) r).answer, answer = .ok ()

private theorem allAccepted_nil (r : Registry C) : r.AllAccepted [] := by
  intro answer impossible
  cases impossible

theorem allAccepted_cons (r : Registry C) (c : Command C) (cs : List (Command C)) :
    r.AllAccepted (c :: cs) ↔ r.fault c = none ∧ (r.add c).AllAccepted cs := by
  have answers : (Action.run (attemptAll (c :: cs)) r).answer =
      (Action.run (register c).run r).answer ::
        (Action.run (attemptAll cs) (Action.run (register c).run r).state).answer := rfl
  simp only [AllAccepted, answers, List.forall_mem_cons, run_register]
  cases r.fault c with
  | none => simp
  | some e => simp

private theorem Sound.allAccepted_iff {r : Registry C} (sound : r.Sound) {cs : List (Command C)}
    (defined : ∀ c ∈ cs, Command.IsDefined c) :
    r.AllAccepted cs ↔ Compatible r.policy (r.commands ++ cs) := by
  induction cs generalizing r with
  | nil =>
    rw [List.append_nil]
    constructor
    · intro _
      exact sound.compatible
    · intro _
      exact allAccepted_nil r
  | cons c cs ih =>
    have together : r.commands ++ c :: cs = (r.add c).commands ++ cs := by
      rw [commands_add, List.append_assoc, List.singleton_append]
    have later := fun d member => defined d (List.mem_cons_of_mem c member)
    rw [allAccepted_cons, fault_eq_none_iff]
    constructor
    · rintro ⟨accepts, rest⟩
      have added := sound.add (defined c List.mem_cons_self) accepts
      rw [together]
      exact (ih added later).mp rest
    · intro compatible
      rw [together] at compatible
      have accepts := sound.accepts_of_compatible compatible.left
      have added := sound.add (defined c List.mem_cons_self) accepts
      exact ⟨accepts, (ih added later).mpr compatible⟩

private theorem AllAccepted.commands {policy : OverlapPolicy} {cs : List (Command C)}
    (accepted : (new policy).AllAccepted cs) (defined : ∀ c ∈ cs, Command.IsDefined c) :
    (Action.run (attemptAll cs) (new policy)).state.commands = cs := by
  obtain ⟨-, -, length, commands⟩ := run_attemptAll (sound_new policy) defined
  have successes : ∀ call ∈ cs.zip (Action.run (attemptAll cs) (new policy)).answer,
      call.2.isOk = true := by
    intro call member
    rw [accepted call.2 (List.of_mem_zip member).2]
    rfl
  rw [commands, Registry.accepted, List.filter_eq_self.mpr successes,
    List.map_fst_zip (Nat.le_of_eq length.symm)]
  rfl

/-- Commands that are all accepted are so in every order. The registries that come of it find the
same command under every name, offer the same names for every word, and answer every line alike,
unless it asks for the list of all commands. -/
theorem registration_order_unseen (policy : OverlapPolicy) {cs ds : List (Command C)}
    (defined : ∀ c ∈ cs, Command.IsDefined c) (permuted : cs.Perm ds)
    (accepted : (new policy).AllAccepted cs) :
    let r := (Action.run (attemptAll cs) (new policy)).state
    let q := (Action.run (attemptAll ds) (new policy)).state
    (new policy).AllAccepted ds ∧
      (∀ name, r.lookup name = q.lookup name) ∧
      (∀ partialName, r.completions partialName = q.completions partialName) ∧
      ∀ text, ¬IsListingLine text → ∀ s,
        Action.run (dispatch r text) s = Action.run (dispatch q text) s := by
  intro r q
  have definedToo : ∀ c ∈ ds, Command.IsDefined c :=
    fun c member => defined c (permuted.mem_iff.mpr member)
  have compatible := ((sound_new policy).allAccepted_iff defined).mp accepted
  have acceptedToo : (new policy).AllAccepted ds :=
    ((sound_new policy).allAccepted_iff definedToo).mpr (compatible.perm permuted)
  have first : r.Sound := (run_attemptAll (sound_new policy) defined).1
  have second : q.Sound := (run_attemptAll (sound_new policy) definedToo).1
  have same : ∀ c, c ∈ r.commands ↔ c ∈ q.commands := by
    intro c
    rw [accepted.commands defined, acceptedToo.commands definedToo]
    exact permuted.mem_iff
  have found := first.lookup_congr second same
  have continued := first.completions_congr second same
  refine ⟨acceptedToo, found, continued, fun text other s => ?_⟩
  have alike := Command.dispatch_congr found continued fun listing => (other listing).elim
  rw [alike]

def addAndReset : List (Command Tally) :=
  [.define " Add" ["PLUS"] [.needed "amount" .integer] "" (Tally.handler (.add "amount")),
    .define "reset" [] [] "" (Tally.handler .echo)]

theorem registration_order_unseen_addAndReset :
    let r := (Action.run (attemptAll addAndReset) (new .reject)).state
    let q := (Action.run (attemptAll addAndReset.reverse) (new .reject)).state
    (∀ c ∈ addAndReset, Command.IsDefined c) ∧ (new .reject).AllAccepted addAndReset ∧
      ¬IsListingLine "plus 3" ∧
      Action.run (dispatch r "plus 3") Tally.zero = Action.run (dispatch q "plus 3") Tally.zero ∧
      (Action.run (dispatch r "plus 3") Tally.zero).state = ⟨1, 3⟩ ∧
      (Action.run (dispatch r "help") Tally.zero).answer ≠
        (Action.run (dispatch q "help") Tally.zero).answer := by
  intro r q
  have defined : ∀ c ∈ addAndReset, Command.IsDefined c := by
    intro c member
    simp only [addAndReset, List.mem_cons, List.not_mem_nil, or_false] at member
    rcases member with rfl | rfl <;> exact Command.isDefined_define _ _ _ _ _
  have accepted : (new .reject).AllAccepted addAndReset := by
    simp only [addAndReset, allAccepted_cons, allAccepted_nil, and_true]
    decide +kernel
  have other : ¬IsListingLine "plus 3" := by
    rintro ⟨word, words, -⟩
    have two : Command.words "plus 3" = ["plus", "3"] := by decide +kernel
    simp [two] at words
  obtain ⟨-, -, -, answered⟩ := registration_order_unseen .reject defined
    (List.reverse_perm addAndReset).symm accepted
  exact ⟨defined, accepted, other, answered "plus 3" other Tally.zero, by decide +kernel,
    by decide +kernel⟩

end ProfileShell.Registry
