import ProfileShell.Proofs.Command.Resolution

/-!
What one more command changes.

A registry settles the answer of a line that calls one of its commands, leaves the loop, or asks for
help on a command that there is. A new command takes no name away, so it changes the answer of no
such line; a word that stays unknown is reported as before, with the same names offered and perhaps
more. A line that is one empty word is no exception to what is changed, but it is answered as if it
had no word at all.
-/

set_option autoImplicit false
set_option relaxedAutoImplicit false

namespace ProfileShell

variable {C : Type}

/-- The reply reports an unknown word and offers names; the field for them is there if any are. -/
structure Reply.ReportsUnknown (reply : Reply) (word : String) (offered : List String) :
    Prop where
  kind : reply.kind = "unknown_command"
  input : reply.get? "input" = some (.text word)
  suggestions : reply.get? "suggestions" =
    if offered = [] then none else some (.array (offered.map .text))

inductive Registry.Settles (r : Registry C) (text : String) : Prop
  | call {word : String} {tokens : List String} {c : Command C}
      (split : Command.words text = word :: tokens) (found : r.lookup word = some c)
  | leave {word : String} {tokens : List String} (split : Command.words text = word :: tokens)
      (leaves : Command.normalize word = "exit" ∨ Command.normalize word = "quit")
  | help {word name : String} (split : Command.words text = [word, name])
      (asks : Command.normalize word = "help") (known : r.Resolves name)

namespace Command

variable {r q : Registry C}

theorem reportsUnknown_unknownReply (r : Registry C) (word : String) :
    (unknownReply r word).ReportsUnknown word (r.completions word) := by
  have same : r.completions (normalize word) = r.completions word := by
    simp only [Registry.completions, normalize_normalize]
  have input : (Reply.unknownCommand word).get? "input" = some (.text word) := rfl
  simp only [unknownReply, same]
  cases offered : r.completions word with
  | nil => exact ⟨rfl, input, rfl⟩
  | cons first others =>
    have field : "suggestions" ≠ Reply.kindField := by decide
    refine ⟨Reply.kind_add _ _ _, ?_, ?_⟩
    · rw [List.isEmpty_cons, if_neg Bool.false_ne_true, Reply.get?_add _ field,
        if_neg (by decide), input]
    · rw [List.isEmpty_cons, if_neg Bool.false_ne_true, Reply.get?_add _ field, if_pos rfl,
        if_neg (List.cons_ne_nil first others)]

theorem run_dispatch_of_not_resolves {text word : String} {tokens : List String}
    (split : words text = word :: tokens) (unresolved : ¬r.Resolves word)
    (spelled : ¬(word = "" ∧ tokens = [])) (s : C) :
    Action.run (dispatch r text) s =
      ⟨unknownReply r word, s, [⟨.debug, s!"unknown command '{word}'"⟩]⟩ := by
  have nonempty : (Line.mk word tokens).isEmpty = false := by
    simpa [Line.isEmpty] using spelled
  have missing := Registry.lookup_eq_none_of_not_resolves unresolved
  have notBuiltin : normalize word ∉ builtinNames := fun builtin => unresolved (Or.inl builtin)
  obtain ⟨notHelp, notExit⟩ := not_mem_builtinNames_iff.mp notBuiltin
  rw [dispatch_eq_dispatchLine split]
  simp only [dispatchLine, nonempty, notHelp, notExit, lookup_normalize, missing, if_false,
    Bool.false_eq_true]
  rfl

/-- A line of one empty word is answered like a line without words. -/
theorem run_dispatch_of_empty_word {text : String} (split : words text = [""]) (s : C) :
    Action.run (dispatch r text) s = ⟨.empty, s, []⟩ := by
  rw [dispatch_eq_dispatchLine split]
  rfl

private theorem dispatch_eq_of_settles (sound : r.Sound)
    (kept : ∀ name c, r.lookup name = some c → q.lookup name = some c) {text : String}
    (settles : r.Settles text) : dispatch r text = dispatch q text := by
  cases settles with
  | @call word tokens c split found =>
    have notBuiltin : normalize word ∉ builtinNames := by
      intro builtin
      have missing := lookup_eq_none_of_not_usable sound (Or.inr builtin)
      simp [found] at missing
    rw [dispatch_eq_dispatchLine split, dispatch_eq_dispatchLine split]
    refine dispatchLine_congr (fun isHelp => ?_) (fun _ => ?_) (fun _ missing => ?_)
    · exact (notBuiltin (mem_builtinNames_iff.mpr (Or.inl isHelp))).elim
    · exact found.trans (kept word c found).symm
    · exact absurd (found.symm.trans missing) (Option.some_ne_none c)
  | @leave word tokens split leaves =>
    have builtin := mem_builtinNames_iff.mpr (Or.inr leaves)
    rw [dispatch_eq_dispatchLine split, dispatch_eq_dispatchLine split]
    refine dispatchLine_congr (fun isHelp => ?_) (fun notBuiltin => ?_) (fun notBuiltin => ?_)
    · have named : normalize word = "help" := isHelp
      rcases leaves with same | same <;> exact absurd (named.symm.trans same) (by decide)
    · exact (notBuiltin builtin).elim
    · exact (notBuiltin builtin).elim
  | @help word name split asks known =>
    have builtin := mem_builtinNames_iff.mpr (Or.inl asks)
    rw [dispatch_eq_dispatchLine split, dispatch_eq_dispatchLine split]
    refine dispatchLine_congr (fun _ => ?_) (fun notBuiltin => ?_) (fun notBuiltin => ?_)
    · refine helpReply_congr (fun impossible => absurd impossible (List.cons_ne_nil name [])) ?_
      intro asked same
      obtain rfl : name = asked := List.singleton_inj.mp same
      refine details_congr fun notBuiltin => ?_
      obtain ⟨c, found⟩ := known.resolve_left notBuiltin
      exact found.trans (kept name c found).symm
    · exact (notBuiltin builtin).elim
    · exact (notBuiltin builtin).elim

/-- A command that is registered changes the answer of no line that was settled before. A word that
is unknown before and after leaves every context as it is; it is reported both times, and the names
that were offered are still offered in their order, exactly if the line is more than one empty
word. -/
theorem dispatch_after_registration {r : Registry C} (reachable : r.Reachable) {c : Command C}
    (defined : c.IsDefined) (accepted : (Action.run (Registry.register c).run r).answer = .ok ()) :
    let q := (Action.run (Registry.register c).run r).state
    (∀ text, r.Settles text → ∀ s,
      Action.run (dispatch q text) s = Action.run (dispatch r text) s) ∧
    ∀ text word tokens, words text = word :: tokens → ¬r.Resolves word → ¬q.Resolves word → ∀ s,
      (Action.run (dispatch r text) s).state = s ∧ (Action.run (dispatch q text) s).state = s ∧
        ((∃ before after, (Action.run (dispatch r text) s).answer.ReportsUnknown word before ∧
            (Action.run (dispatch q text) s).answer.ReportsUnknown word after ∧
            before.Sublist after) ↔
          ¬(word = "" ∧ tokens = [])) := by
  have sound := reachable.sound
  have faultless : r.fault c = none := by
    rw [Registry.run_register] at accepted
    cases fault : r.fault c with
    | none => rfl
    | some e => simp [fault] at accepted
  have accepts := (Registry.fault_eq_none_iff r c).mp faultless
  have added := sound.add defined accepts
  simp only [Registry.run_register, faultless]
  refine ⟨fun text settles s => ?_, fun text word tokens split unknown still s => ?_⟩
  · have kept : ∀ name d, r.lookup name = some d → (r.add c).lookup name = some d :=
      fun name d found => sound.lookup_add_of_some accepts found
    rw [dispatch_eq_of_settles sound kept settles]
  · by_cases alone : word = "" ∧ tokens = []
    · have lone : words text = [""] := by rw [split, alone.1, alone.2]
      rw [run_dispatch_of_empty_word lone, run_dispatch_of_empty_word lone]
      refine ⟨rfl, rfl, ?_⟩
      constructor
      · rintro ⟨before, after, reported, -, -⟩
        have kind : Reply.empty.kind = "unknown_command" := reported.kind
        exact absurd kind (by decide)
      · intro spelled
        exact (spelled alone).elim
    · rw [run_dispatch_of_not_resolves split unknown alone,
        run_dispatch_of_not_resolves split still alone]
      have more := sound.completions_sublist added (List.subset_append_left r.commands [c]) word
      have reports : ∃ before after,
          (unknownReply r word).ReportsUnknown word before ∧
            (unknownReply (r.add c) word).ReportsUnknown word after ∧ before.Sublist after :=
        ⟨_, _, reportsUnknown_unknownReply r word, reportsUnknown_unknownReply (r.add c) word, more⟩
      exact ⟨rfl, rfl, fun _ => alone, fun _ => reports⟩

def plush : Command Tally :=
  .define "Plush" [] [.needed "amount" .number] "" (Tally.handler .echo)

private theorem reachable_threeCommands :
    (Action.run (Registry.attemptAll Registry.threeCommands) (.new .reject)).state.Reachable :=
  ⟨.reject, Registry.threeCommands, Registry.isDefined_threeCommands, rfl⟩

private theorem accepted_plush :
    (Action.run (Registry.register plush).run
      (Action.run (Registry.attemptAll Registry.threeCommands) (.new .reject)).state).answer =
        .ok () := by
  have faultless : (Action.run (Registry.attemptAll Registry.threeCommands)
      (.new .reject)).state.fault plush = none := by decide +kernel
  rw [Registry.run_register, faultless]

theorem dispatch_after_registration_plush :
    let r := (Action.run (Registry.attemptAll Registry.threeCommands) (.new .reject)).state
    let q := (Action.run (Registry.register plush).run r).state
    r.Reachable ∧ plush.IsDefined ∧
      (Action.run (Registry.register plush).run r).answer = .ok () ∧
      r.Settles "PLUS 3" ∧
      Action.run (dispatch q "PLUS 3") Tally.zero = Action.run (dispatch r "PLUS 3") Tally.zero ∧
      words "plu 3" = ["plu", "3"] ∧ ¬r.Resolves "plu" ∧ ¬q.Resolves "plu" ∧
      ∃ before after,
        (Action.run (dispatch r "plu 3") Tally.zero).answer.ReportsUnknown "plu" before ∧
          (Action.run (dispatch q "plu 3") Tally.zero).answer.ReportsUnknown "plu" after ∧
          before.Sublist after := by
  intro r q
  have reachable : r.Reachable := reachable_threeCommands
  have defined : plush.IsDefined := isDefined_define _ _ _ _ _
  obtain ⟨c, found⟩ : ∃ c, r.lookup "PLUS" = some c := by
    apply Option.isSome_iff_exists.mp
    decide +kernel
  have called : words "PLUS 3" = ["PLUS", "3"] := by decide +kernel
  have settles : r.Settles "PLUS 3" := .call called found
  have split : words "plu 3" = ["plu", "3"] := by decide +kernel
  have unknown : ¬r.Resolves "plu" := by decide +kernel
  have still : ¬q.Resolves "plu" := by decide +kernel
  obtain ⟨answered, reported⟩ := dispatch_after_registration reachable defined accepted_plush
  obtain ⟨-, -, reports⟩ := reported "plu 3" "plu" ["3"] split unknown still Tally.zero
  exact ⟨reachable, defined, accepted_plush, settles, answered "PLUS 3" settles Tally.zero, split,
    unknown, still, reports.mpr (by simp)⟩

/-- One empty word names no command, neither before nor after another one is registered, and yet it
is not reported as unknown. -/
theorem empty_word_is_not_reported :
    let r := (Action.run (Registry.attemptAll Registry.threeCommands) (.new .reject)).state
    let q := (Action.run (Registry.register plush).run r).state
    r.Reachable ∧ plush.IsDefined ∧
      (Action.run (Registry.register plush).run r).answer = .ok () ∧
      words "\"\"" = [""] ∧ ¬r.Resolves "" ∧ ¬q.Resolves "" ∧
      (Action.run (dispatch r "\"\"") Tally.zero).answer.kind = "empty" ∧
      (Action.run (dispatch q "\"\"") Tally.zero).answer.kind = "empty" := by
  intro r q
  exact ⟨reachable_threeCommands, isDefined_define _ _ _ _ _, accepted_plush, by decide +kernel,
    by decide +kernel, by decide +kernel, by decide +kernel, by decide +kernel⟩

end Command

end ProfileShell
