import Mathlib.Data.List.Sort
import Mathlib.Data.String.Basic
import ProfileShell.Proofs.Command.Invocation
import ProfileShell.Proofs.TextMap

/-!
What of a registry a line can see.

A line is answered from the command that its first word names, from the names that continue a word
that names none, and, where it asks for help, from the command that is asked about or from the list
of all commands. The positions of the commands are not seen: which command a name finds and which
names continue a word are settled by which commands there are.
-/

set_option autoImplicit false
set_option relaxedAutoImplicit false

namespace ProfileShell

variable {C : Type}

namespace Registry

open Command (builtinNames normalize)

variable {r q : Registry C}

theorem Sound.mem_keys_iff (sound : r.Sound) (name : String) :
    name ∈ r.index.keys ↔ name ∈ r.commands.flatMap Command.names := by
  have unowned := sound.get?_eq_none_iff name
  constructor
  · intro member
    obtain ⟨position, found⟩ := TextMap.exists_of_mem_keys member
    by_contra absent
    have missing := unowned.mpr absent
    simp [found] at missing
  · intro owned
    have present : r.index.get? name ≠ none := fun missing => unowned.mp missing owned
    obtain ⟨position, found⟩ := Option.ne_none_iff_exists'.mp present
    exact TextMap.mem_keys_of_get? found

theorem Sound.lookup_congr (first : r.Sound) (second : q.Sound)
    (same : ∀ c, c ∈ r.commands ↔ c ∈ q.commands) (name : String) :
    r.lookup name = q.lookup name := by
  apply Option.ext
  intro c
  rw [first.lookup_eq_some_iff_mem, second.lookup_eq_some_iff_mem, same]

theorem Sound.completions_sublist (first : r.Sound) (second : q.Sound)
    (included : r.commands ⊆ q.commands) (partialName : String) :
    (r.completions partialName).Sublist (q.completions partialName) := by
  have keys : r.index.keys ⊆ q.index.keys := by
    intro name member
    have owned := (first.mem_keys_iff name).mp member
    obtain ⟨c, registered, own⟩ := List.mem_flatMap.mp owned
    have stillOwned := List.mem_flatMap.mpr ⟨c, included registered, own⟩
    exact (second.mem_keys_iff name).mpr stillOwned
  have ascending := r.index.keys_ascending
  have subperm := List.subperm_of_subset ascending.nodup keys
  have sublist := List.sublist_of_subperm_of_pairwise subperm ascending q.index.keys_ascending
  exact sublist.filter _

theorem Sound.completions_congr (first : r.Sound) (second : q.Sound)
    (same : ∀ c, c ∈ r.commands ↔ c ∈ q.commands) (partialName : String) :
    r.completions partialName = q.completions partialName := by
  have there := first.completions_sublist second (fun c => (same c).mp) partialName
  have back := second.completions_sublist first (fun c => (same c).mpr) partialName
  exact there.antisymm back

theorem Sound.lookup_add (sound : r.Sound) (c : Command C) (name : String) :
    (r.add c).lookup name = if normalize name ∈ c.names then some c else r.lookup name := by
  rw [lookup, get?_index_add]
  by_cases own : normalize name ∈ c.names
  · rw [if_pos own, if_pos own, Option.bind_some, commands_add]
    exact List.getElem?_concat_length
  · rw [if_neg own, if_neg own, lookup]
    cases found : r.index.get? (normalize name) with
    | none => rfl
    | some position =>
      have inside := sound.lt_length found
      rw [Option.bind_some, Option.bind_some, commands_add, List.getElem?_append_left inside]

theorem Sound.lookup_add_of_some (sound : r.Sound) {c d : Command C} (accepts : r.Accepts c)
    {name : String} (found : r.lookup name = some d) : (r.add c).lookup name = some d := by
  have old : normalize name ∉ c.names := by
    intro own
    have unowned := (sound.get?_eq_none_iff _).mp (accepts.fresh _ own)
    obtain ⟨registered, owned⟩ := (sound.lookup_eq_some_iff_mem name d).mp found
    exact unowned (List.mem_flatMap.mpr ⟨d, registered, owned⟩)
  rw [sound.lookup_add, if_neg old, found]

def Resolves (r : Registry C) (word : String) : Prop :=
  normalize word ∈ builtinNames ∨ ∃ c, r.lookup word = some c

instance (r : Registry C) (word : String) : Decidable (r.Resolves word) :=
  decidable_of_iff (normalize word ∈ builtinNames ∨ (r.lookup word).isSome = true) (by
    rw [Resolves, Option.isSome_iff_exists])

theorem lookup_eq_none_of_not_resolves {word : String} (unresolved : ¬r.Resolves word) :
    r.lookup word = none := by
  by_contra found
  obtain ⟨c, found⟩ := Option.ne_none_iff_exists'.mp found
  exact unresolved (Or.inr ⟨c, found⟩)

end Registry

namespace Command

variable {r q : Registry C}

theorem details_congr {name : String}
    (found : normalize name ∉ builtinNames → r.lookup name = q.lookup name) :
    details r name = details q name := by
  simp only [details]
  by_cases help : normalize name = "help"
  · rw [if_pos help, if_pos help]
  · rw [if_neg help, if_neg help]
    by_cases leave : normalize name = "exit" ∨ normalize name = "quit"
    · rw [if_pos leave, if_pos leave]
    · have notBuiltin := not_mem_builtinNames_iff.mpr ⟨help, leave⟩
      rw [if_neg leave, if_neg leave, found notBuiltin]

private theorem helpReply_nil (r : Registry C) : helpReply r [] = .help (listing r) := rfl

theorem helpReply_singleton (r : Registry C) (name : String) :
    helpReply r [name] =
      (Reply.help ((details r name).getD ("No such command '" ++ name ++ "'"))).addText
        "command" name := rfl

private theorem helpReply_surplus (r : Registry C) (first second : String) (tokens : List String) :
    helpReply r (first :: second :: tokens) =
      .invalidArgument "help" (.tooManyArguments 1 (tokens.length + 2)) := rfl

theorem helpReply_congr {tokens : List String} (listed : tokens = [] → listing r = listing q)
    (described : ∀ name, tokens = [name] → details r name = details q name) :
    helpReply r tokens = helpReply q tokens := by
  match tokens with
  | [] => rw [helpReply_nil, helpReply_nil, listed rfl]
  | [name] => rw [helpReply_singleton, helpReply_singleton, described name rfl]
  | first :: second :: rest => rw [helpReply_surplus, helpReply_surplus]

/-- A line whose words two registries treat alike is answered alike. -/
theorem dispatchLine_congr {line : Line}
    (help : normalize line.command = "help" →
      helpReply r line.arguments = helpReply q line.arguments)
    (found : normalize line.command ∉ builtinNames →
      r.lookup line.command = q.lookup line.command)
    (unknown : normalize line.command ∉ builtinNames → r.lookup line.command = none →
      unknownReply r line.command = unknownReply q line.command) :
    dispatchLine r line = dispatchLine q line := by
  simp only [dispatchLine, lookup_normalize]
  split
  · rfl
  · split
    · rename_i isHelp
      rw [help isHelp]
    · split
      · rfl
      · rename_i notHelp notExit
        have notBuiltin := not_mem_builtinNames_iff.mpr ⟨notHelp, notExit⟩
        rw [← found notBuiltin]
        cases missing : r.lookup line.command with
        | some c => rfl
        | none => simp only [unknown notBuiltin missing]

def IsListingLine (text : String) : Prop :=
  ∃ word, words text = [word] ∧ normalize word = "help"

/-- Registries in which the same commands are found and the same names continue a word answer alike
every line that does not ask for the list of commands, and that one too if their lists are alike. -/
theorem dispatch_congr (found : ∀ name, r.lookup name = q.lookup name)
    (continued : ∀ partialName, r.completions partialName = q.completions partialName)
    {text : String} (listed : IsListingLine text → listing r = listing q) :
    dispatch r text = dispatch q text := by
  cases split : words text with
  | nil => simp only [dispatch, Line.ofText, split]; rfl
  | cons word tokens =>
    rw [dispatch_eq_dispatchLine split, dispatch_eq_dispatchLine split]
    refine dispatchLine_congr (fun isHelp => helpReply_congr ?_ ?_) (fun _ => found word) ?_
    · intro alone
      have noTokens : tokens = [] := alone
      exact listed ⟨word, by rw [split, noTokens], isHelp⟩
    · intro name _
      exact details_congr fun _ => found name
    · intro _ _
      simp only [unknownReply, continued]

end Command

end ProfileShell
