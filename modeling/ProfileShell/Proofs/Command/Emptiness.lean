import ProfileShell.Proofs.Command.Extension

/-!
Which lines count as empty.

A line without words is empty. A line whose only word is empty looks the same once it has been split
into a command word and arguments, so it counts as empty too, although it has a word. Every other
line is resolved: it goes to a built-in command or a registered one, or is reported as unknown.
-/

set_option autoImplicit false
set_option relaxedAutoImplicit false

namespace ProfileShell

variable {C : Type}

def Registry.NeverRepliesEmpty (r : Registry C) : Prop :=
  ∀ c ∈ r.commands, ∀ args s reply,
    (Action.run (c.handler args) s).answer = .replied reply → reply.kind ≠ "empty"

/-- How a word and the tokens behind it are answered as a command. -/
inductive Registry.Resolution (r : Registry C) (word : String) (tokens : List String) :
    Action C Reply → Prop
  | help (named : Command.normalize word = "help") :
      Resolution r word tokens (pure (Command.helpReply r tokens))
  | leave (named : Command.normalize word = "exit" ∨ Command.normalize word = "quit") :
      Resolution r word tokens (pure (Command.exitReply (Command.normalize word) tokens))
  | call {c : Command C} (free : Command.normalize word ∉ Command.builtinNames)
      (found : r.lookup word = some c) : Resolution r word tokens (Command.bindAndInvoke c tokens)
  | unknown (unresolved : ¬r.Resolves word) :
      Resolution r word tokens (do
        Action.note .debug s!"unknown command '{word}'"
        pure (Command.unknownReply r word))

namespace Command

private theorem isEmpty_ofText_iff (text : String) :
    (Line.ofText text).isEmpty = true ↔ words text = [] ∨ words text = [""] := by
  cases split : words text with
  | nil => simp [Line.ofText, split, Line.isEmpty]
  | cons word tokens => simp [Line.ofText, split, Line.isEmpty]

variable {r : Registry C} {word : String} {tokens : List String}

theorem kind_exitReply (name : String) (tokens : List String) :
    (exitReply name tokens).kind = "exit" ∨ (exitReply name tokens).kind = "invalid_argument" := by
  unfold exitReply
  split
  · exact Or.inr (Reply.kind_invalidArgument _ _)
  · exact Or.inl rfl

theorem kind_bindAndInvoke (c : Command C) (tokens : List String) (s : C) :
    let kind := (Action.run (bindAndInvoke c tokens) s).answer.kind
    kind = "invalid_argument" ∨ kind = "failed" ∨
      ∃ args reply, (Action.run (c.handler args) s).answer = .replied reply ∧
        kind = reply.kind := by
  intro kind
  simp only [kind, bindAndInvoke]
  cases Arguments.bind c.parameters tokens with
  | error e => exact Or.inl (Reply.kind_invalidArgument c.name e)
  | ok args =>
    right
    rw [Action.run_bind]
    simp only [(run_invoke c args _).1]
    cases outcome : (Action.run (c.handler args) s).answer with
    | replied reply => exact Or.inr ⟨args, reply, outcome, by simp [replyOf, outcome]⟩
    | failed failure => exact Or.inl (by simp [replyOf, outcome])
    | panicked message => exact Or.inl (by simp [replyOf, outcome])

private theorem kind_ne_empty_of_resolution (speaks : r.NeverRepliesEmpty) {answer : Action C Reply}
    (resolution : r.Resolution word tokens answer) (s : C) :
    (Action.run answer s).answer.kind ≠ "empty" := by
  cases resolution with
  | help =>
    rw [Action.run_pure]
    rcases kind_helpReply r tokens with kind | kind <;> rw [kind] <;> decide
  | leave =>
    rw [Action.run_pure]
    rcases kind_exitReply (normalize word) tokens with kind | kind <;> rw [kind] <;> decide
  | @call c free found =>
    rcases kind_bindAndInvoke c tokens s with kind | kind | ⟨args, reply, replied, kind⟩
    · rw [kind]
      decide
    · rw [kind]
      decide
    · rw [kind]
      exact speaks c (Registry.mem_of_lookup found) args s reply replied
  | unknown unresolved =>
    change (unknownReply r word).kind ≠ "empty"
    rw [kind_unknownReply]
    decide

/-- A line of more than one empty word is resolved by its first word. -/
theorem resolution_dispatch {text : String} (split : words text = word :: tokens)
    (spelled : ¬(word = "" ∧ tokens = [])) : r.Resolution word tokens (dispatch r text) := by
  have nonempty : (Line.mk word tokens).isEmpty = false := by
    simpa [Line.isEmpty] using spelled
  rw [dispatch_eq_dispatchLine split]
  simp only [dispatchLine, nonempty, Bool.false_eq_true, if_false, lookup_normalize]
  split
  · rename_i help
    exact .help help
  · rename_i notHelp
    split
    · rename_i leaves
      exact .leave leaves
    · rename_i notExit
      have free := not_mem_builtinNames_iff.mpr ⟨notHelp, notExit⟩
      cases found : r.lookup word with
      | some c => exact .call free found
      | none =>
        refine .unknown ?_
        rintro (builtin | ⟨c, other⟩)
        · exact free builtin
        · rw [found] at other
          cases other

/-- A line counts as empty, and is answered as empty, exactly if it has no word or its only word is
empty. A line with words is resolved as a command unless its only word is empty. -/
theorem emptiness_of_line (speaks : r.NeverRepliesEmpty) (text : String) (s : C) :
    ((Line.ofText text).isEmpty = true ↔ words text = [] ∨ words text = [""]) ∧
      ((Action.run (dispatch r text) s).answer.kind = "empty" ↔
        words text = [] ∨ words text = [""]) ∧
      ∀ word tokens, words text = word :: tokens →
        ((∃ answer, r.Resolution word tokens answer ∧
            Action.run (dispatch r text) s = Action.run answer s) ↔ words text ≠ [""]) := by
  have lone : words text = [""] → (Action.run (dispatch r text) s).answer.kind = "empty" := by
    intro split
    rw [run_dispatch_of_empty_word split]
    rfl
  have resolved : ∀ word tokens, words text = word :: tokens → words text ≠ [""] →
      r.Resolution word tokens (dispatch r text) := by
    intro word tokens split several
    refine resolution_dispatch split ?_
    rintro ⟨rfl, rfl⟩
    exact several split
  refine ⟨isEmpty_ofText_iff text, ?_, fun word tokens split => ?_⟩
  · constructor
    · intro empty
      cases split : words text with
      | nil => exact Or.inl rfl
      | cons word tokens =>
        refine Or.inr ?_
        by_contra several
        rw [← split] at several
        exact kind_ne_empty_of_resolution speaks (resolved word tokens split several) s empty
    · rintro (none | alone)
      · simp only [dispatch, Line.ofText, none]
        rfl
      · exact lone alone
  · constructor
    · rintro ⟨answer, resolution, same⟩ alone
      have empty := lone alone
      rw [same] at empty
      exact kind_ne_empty_of_resolution speaks resolution s empty
    · intro several
      exact ⟨dispatch r text, resolved word tokens split several, rfl⟩

def plushOnly : Registry Tally :=
  (Registry.new .reject).add plush

private theorem neverRepliesEmpty_plushOnly : plushOnly.NeverRepliesEmpty := by
  intro c member args s reply replied
  obtain rfl : c = plush := List.mem_singleton.mp member
  have same : Reply.success.add "args" args.toJson = reply := Outcome.replied.inj replied
  rw [← same, Reply.kind_add]
  decide

/-- An empty word before another one is looked up as a command. -/
theorem emptiness_of_line_plushOnly :
    plushOnly.NeverRepliesEmpty ∧ words "\"\" x" = ["", "x"] ∧
      (Action.run (dispatch plushOnly "\"\" x") Tally.zero).answer.kind ≠ "empty" ∧
      ∃ answer, plushOnly.Resolution "" ["x"] answer ∧
        Action.run (dispatch plushOnly "\"\" x") Tally.zero = Action.run answer Tally.zero := by
  have speaks := neverRepliesEmpty_plushOnly
  have split : words "\"\" x" = ["", "x"] := by decide +kernel
  obtain ⟨-, answered, resolved⟩ := emptiness_of_line speaks "\"\" x" Tally.zero
  refine ⟨speaks, split, ?_, (resolved "" ["x"] split).mpr (by simp [split])⟩
  rw [ne_eq, answered, split]
  decide

/-- An empty word alone is a word, and yet its line counts as empty. -/
theorem lone_empty_word_counts_as_none :
    plushOnly.NeverRepliesEmpty ∧ words "\"\"" = [""] ∧ (Line.ofText "\"\"").isEmpty = true ∧
      (Action.run (dispatch plushOnly "\"\"") Tally.zero).answer.kind = "empty" := by
  refine ⟨neverRepliesEmpty_plushOnly, ?_⟩
  decide +kernel

end Command

end ProfileShell
