import ProfileShell.Proofs.Command.Help
import ProfileShell.Proofs.Text.Bytes

/-!
What is suggested for a word.

The continuations of a word are the names of registered commands that start with it, in the order of
their bytes. The index is read in no particular order: sorting what is found in it comes to the same
list whatever the order. A word that a line is reported for has no command, so each of its
continuations is longer than the word, and a line that starts with a continuation calls a command.
-/

set_option autoImplicit false
set_option relaxedAutoImplicit false

namespace ProfileShell

variable {C : Type}

namespace Registry

open Command (normalize)

variable {r : Registry C}

/-- The name starts with the word, up to the word's case and the blanks around it. -/
def Continues (word name : String) : Prop :=
  (normalize word).toList <+: name.toList

instance (word name : String) : Decidable (Continues word name) :=
  inferInstanceAs (Decidable ((normalize word).toList <+: name.toList))

private theorem completions_eq_filter (r : Registry C) (word : String) :
    r.completions word = r.index.keys.filter fun name => decide (Continues word name) := by
  refine List.filter_congr fun name _ => ?_
  rw [Bool.eq_iff_iff, List.isPrefixOf_iff_prefix, decide_eq_true_iff, Continues]

private theorem Sound.mem_completions_iff (sound : r.Sound) (word name : String) :
    name ∈ r.completions word ↔
      (∃ c ∈ r.commands, name ∈ c.names) ∧ Continues word name := by
  rw [completions_eq_filter, List.mem_filter, sound.mem_keys_iff, List.mem_flatMap,
    decide_eq_true_iff]

private theorem Sound.completions_ne_nil_iff (sound : r.Sound) (word : String) :
    r.completions word ≠ [] ↔ ∃ c ∈ r.commands, ∃ name ∈ c.names, Continues word name := by
  constructor
  · intro some
    obtain ⟨name, offered⟩ := List.exists_mem_of_ne_nil _ some
    obtain ⟨⟨c, member, own⟩, continues⟩ := (sound.mem_completions_iff word name).mp offered
    exact ⟨c, member, name, own, continues⟩
  · rintro ⟨c, member, name, own, continues⟩
    exact List.ne_nil_of_mem
      ((sound.mem_completions_iff word name).mpr ⟨⟨c, member, own⟩, continues⟩)

private theorem completions_ascending (r : Registry C) (word : String) :
    (r.completions word).Pairwise fun a b => Text.bytes a < Text.bytes b := by
  rw [completions_eq_filter]
  exact (r.index.keys_ascending.imp Text.bytes_lt_bytes).filter _

/-- However the keys of the index are listed, their continuations of a word in the order of their
bytes are the completions. -/
private theorem sorted_continuations_iff {keys found : List String}
    (listed : keys.Perm r.index.keys) (word : String) :
    found.Perm (keys.filter fun name => decide (Continues word name)) ∧
        (found.Pairwise fun a b => Text.bytes a ≤ Text.bytes b) ↔
      found = r.completions word := by
  have same := listed.filter fun name => decide (Continues word name)
  rw [← completions_eq_filter] at same
  have ascending := (r.completions_ascending word).imp fun less => List.le_of_lt less
  constructor
  · rintro ⟨perm, sorted⟩
    refine (perm.trans same).eq_of_pairwise ?_ sorted ascending
    intro a b _ _ less more
    exact Text.bytes_injective (List.le_antisymm less more)
  · rintro rfl
    exact ⟨same.symm, ascending⟩

private theorem Sound.standsFor_name (sound : r.Sound) {c : Command C} (member : c ∈ r.commands)
    {name : String} (own : name ∈ c.names) : r.StandsFor name (.registered c) := by
  have usable := sound.usable c member name own
  have normal : normalize name = name := by rw [Command.normalize, usable.trimmed, usable.lowered]
  exact .registered member (normal.symm ▸ own)

private theorem Sound.length_lt_of_mem_completions (sound : r.Sound) {word name : String}
    (unresolved : ¬r.Resolves word) (offered : name ∈ r.completions word) :
    (normalize word).length < name.length := by
  obtain ⟨⟨c, member, own⟩, continues⟩ := (sound.mem_completions_iff word name).mp offered
  have shorter := continues.length_le
  rw [String.length_toList, String.length_toList] at shorter
  by_contra long
  have whole : normalize word = name := by
    apply String.toList_inj.mp
    exact continues.eq_of_length (by rw [String.length_toList, String.length_toList]; omega)
  refine unresolved ((resolves_iff sound).mpr ⟨.registered c, .registered member ?_⟩)
  rw [whole]
  exact own

end Registry

namespace Command

variable {r : Registry C}

private theorem exists_of_reported {text : String} (uncalled : call? r text = none) {s : C}
    (reported : (Action.run (dispatch r text) s).answer.kind = "unknown_command") :
    ∃ word tokens, words text = word :: tokens ∧ ¬r.Resolves word ∧
      ¬(word = "" ∧ tokens = []) := by
  cases split : words text with
  | nil =>
    simp only [dispatch, Line.ofText, split] at reported
    have kind : Reply.empty.kind = "unknown_command" := reported
    exact absurd kind (by decide)
  | cons word tokens =>
    have spelled : ¬(word = "" ∧ tokens = []) := by
      rintro ⟨rfl, rfl⟩
      rw [run_dispatch_of_empty_word split] at reported
      have kind : Reply.empty.kind = "unknown_command" := reported
      exact absurd kind (by decide)
    refine ⟨word, tokens, rfl, ?_, spelled⟩
    generalize answers : dispatch r text = answer at reported
    have resolution := resolution_dispatch (r := r) split spelled
    rw [answers] at resolution
    cases resolution with
    | help =>
      rw [Action.run_pure] at reported
      rcases kind_helpReply r tokens with kind | kind <;> simp [kind] at reported
    | leave =>
      rw [Action.run_pure] at reported
      rcases kind_exitReply (normalize word) tokens with kind | kind <;> simp [kind] at reported
    | @call c free found =>
      cases bound : Arguments.bind c.parameters tokens with
      | ok args =>
        rw [(call?_eq_some_iff r text c args).mpr ⟨word, tokens, split, found, bound⟩] at uncalled
        cases uncalled
      | error e =>
        simp only [bindAndInvoke, bound, Action.run_bind, Action.run_pure,
          Reply.kind_invalidArgument] at reported
        exact absurd reported (by decide)
    | unknown unresolved => exact unresolved

/-- The continuations of a text are the names of registered commands that start with it, each once,
in the order of their bytes and in whatever order the index is read. A line that is reported as
unknown without a handler comes with the continuations of its first word, if there are any; they are
all longer than the word, and every line that starts with one of them calls a registered command. -/
theorem suggestions_continue_word {r : Registry C} (reachable : r.Reachable) :
    (∀ word,
      ((r.completions word).Pairwise fun a b => Text.bytes a < Text.bytes b) ∧
      (∀ name, name ∈ r.completions word ↔
        (∃ c ∈ r.commands, name ∈ c.names) ∧ (normalize word).toList <+: name.toList) ∧
      ∀ keys found : List String, keys.Perm r.index.keys →
        (found.Perm (keys.filter fun name => decide (Registry.Continues word name)) ∧
            (found.Pairwise fun a b => Text.bytes a ≤ Text.bytes b) ↔
          found = r.completions word)) ∧
    ∀ text s, call? r text = none →
      (Action.run (dispatch r text) s).answer.kind = "unknown_command" →
      ∃ word tokens, words text = word :: tokens ∧
        let suggestions := (Action.run (dispatch r text) s).answer.get? "suggestions"
        (suggestions ≠ none ↔
          ∃ c ∈ r.commands, ∃ name ∈ c.names, (normalize word).toList <+: name.toList) ∧
        (suggestions ≠ none → suggestions = some (.array ((r.completions word).map .text))) ∧
        ∀ name ∈ r.completions word, (normalize word).length < name.length ∧
          ∃ c ∈ r.commands, name ∈ c.names ∧
            ∀ line arguments, words line = name :: arguments →
              dispatch r line = bindAndInvoke c arguments := by
  have sound := reachable.sound
  refine ⟨fun word => ⟨r.completions_ascending word, sound.mem_completions_iff word, ?_⟩, ?_⟩
  · intro keys found listed
    exact Registry.sorted_continuations_iff listed word
  intro text s uncalled reported
  obtain ⟨word, tokens, split, unresolved, spelled⟩ := exists_of_reported uncalled reported
  refine ⟨word, tokens, split, ?_⟩
  rw [run_dispatch_of_not_resolves split unresolved spelled]
  have field := (reportsUnknown_unknownReply r word).suggestions
  refine ⟨?_, ?_, fun name offered => ?_⟩
  · refine Iff.trans ?_ (sound.completions_ne_nil_iff word)
    rw [field]
    simp
  · rw [field]
    split
    · intro absent
      exact absurd rfl absent
    · intro _
      rfl
  · obtain ⟨⟨c, member, own⟩, -⟩ := (sound.mem_completions_iff word name).mp offered
    refine ⟨sound.length_lt_of_mem_completions unresolved offered, c, member, own, ?_⟩
    intro line arguments calls
    have nonempty := (sound.usable c member name own).nonempty
    exact dispatch_of_standsFor sound calls nonempty (sound.standsFor_name member own)

theorem suggestions_continue_word_plu :
    let r := (Action.run (Registry.attemptAll Registry.threeCommands) (.new .reject)).state
    r.Reachable ∧ call? r "PLU 3" = none ∧
      let answer := (Action.run (dispatch r "PLU 3") Tally.zero).answer
      answer.kind = "unknown_command" ∧
        answer.get? "suggestions" = some (.array [.text "plus"]) := by
  intro r
  have reachable : r.Reachable :=
    ⟨.reject, Registry.threeCommands, Registry.isDefined_threeCommands, rfl⟩
  have uncalled : call? r "PLU 3" = none := by decide +kernel
  have reported : (Action.run (dispatch r "PLU 3") Tally.zero).answer.kind = "unknown_command" := by
    decide +kernel
  obtain ⟨-, lines⟩ := suggestions_continue_word reachable
  obtain ⟨word, tokens, split, suggested, whole, -⟩ := lines "PLU 3" Tally.zero uncalled reported
  have first : word = "PLU" := by
    have read : words "PLU 3" = ["PLU", "3"] := by decide +kernel
    exact (List.cons.inj (split.symm.trans read)).1
  subst first
  have continued : ∃ c ∈ r.commands, ∃ name ∈ c.names,
      (normalize "PLU").toList <+: name.toList := by decide +kernel
  have offered : r.completions "PLU" = ["plus"] := by decide +kernel
  refine ⟨reachable, uncalled, reported, ?_⟩
  rw [whole (suggested.mpr continued), offered]
  rfl

end Command

end ProfileShell
