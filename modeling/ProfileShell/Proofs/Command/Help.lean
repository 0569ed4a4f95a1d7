import ProfileShell.Proofs.Command.Delivery
import ProfileShell.Proofs.Command.Emptiness

/-!
What help says of a word.

A word stands for a built-in command or for the registered one that has it among its names, in
whatever case it is written and with whatever blanks around it. Lines that start with the word and
questions for help about it go by the same command: it answers the lines, and help describes it. Of
a word that stands for nothing help says so, and a line that starts with it is reported as unknown.
-/

set_option autoImplicit false
set_option relaxedAutoImplicit false

namespace ProfileShell

variable {C : Type}

inductive Referent (C : Type)
  | help
  | leave
  | registered (c : Command C)

namespace Referent

open Command (helpDescription exitDescription helpReply exitReply normalize)

def name : Referent C → String
  | .help => "help"
  | .leave => "exit"
  | .registered c => c.name

def usage : Referent C → String
  | .help => "help [command:str]"
  | .leave => "exit"
  | .registered c => c.usage

def description : Referent C → String
  | .help => helpDescription
  | .leave => exitDescription
  | .registered c => c.description

/-- How the command answers a word that stands for it and the tokens behind the word. -/
def answer (r : Registry C) (word : String) (tokens : List String) :
    Referent C → Action C Reply
  | .help => pure (helpReply r tokens)
  | .leave => pure (exitReply (normalize word) tokens)
  | .registered c => Command.bindAndInvoke c tokens

private theorem exists_description_eq (referent : Referent C) :
    ∃ rest, referent.description =
      "Help for command '" ++ referent.name ++ "':\n  Usage: " ++ referent.usage ++ rest := by
  cases referent with
  | help =>
    refine ⟨"\n\nList the available commands or show help for one command.", ?_⟩
    change helpDescription = "Help for command '" ++ "help" ++ _ ++ "help [command:str]" ++ _
    decide
  | leave =>
    refine ⟨"\n  Aliases: quit\n\nLeave the current loop.", ?_⟩
    change exitDescription = "Help for command '" ++ "exit" ++ _ ++ "exit" ++ _
    decide
  | registered c =>
    exact ⟨_, String.append_assoc⟩

private theorem description_ne (referent : Referent C) (word : String) :
    referent.description ≠ "No such command '" ++ word ++ "'" := by
  obtain ⟨rest, starts⟩ := referent.exists_description_eq
  intro same
  have first := congrArg (fun text => text.toList.head?) (starts.symm.trans same)
  simp at first

end Referent

namespace Registry

open Command (normalize)

/-- The word is, up to its case and the blanks around it, a name of the command. -/
inductive StandsFor (r : Registry C) (word : String) : Referent C → Prop
  | help (named : normalize word = "help") : StandsFor r word .help
  | leave (named : normalize word = "exit" ∨ normalize word = "quit") : StandsFor r word .leave
  | registered {c : Command C} (member : c ∈ r.commands) (named : normalize word ∈ c.names) :
      StandsFor r word (.registered c)

def NeverReplies (r : Registry C) (kind : String) : Prop :=
  ∀ c ∈ r.commands, ∀ args s reply,
    (Action.run (c.handler args) s).answer = .replied reply → reply.kind ≠ kind

variable {r : Registry C} {word : String}

theorem resolves_iff (sound : r.Sound) :
    r.Resolves word ↔ ∃ referent, r.StandsFor word referent := by
  constructor
  · rintro (builtin | ⟨c, found⟩)
    · rcases Command.mem_builtinNames_iff.mp builtin with named | leaves
      · exact ⟨_, .help named⟩
      · exact ⟨_, .leave leaves⟩
    · obtain ⟨member, named⟩ := (sound.lookup_eq_some_iff_mem word c).mp found
      exact ⟨_, .registered member named⟩
  · rintro ⟨_, stands⟩
    cases stands with
    | help named => exact Or.inl (Command.mem_builtinNames_iff.mpr (Or.inl named))
    | leave leaves => exact Or.inl (Command.mem_builtinNames_iff.mpr (Or.inr leaves))
    | registered member named =>
      exact Or.inr ⟨_, (sound.lookup_eq_some_iff_mem word _).mpr ⟨member, named⟩⟩

private theorem Sound.not_builtin (sound : r.Sound) {c : Command C} (member : c ∈ r.commands)
    (named : normalize word ∈ c.names) :
    normalize word ≠ "help" ∧ ¬(normalize word = "exit" ∨ normalize word = "quit") :=
  Command.not_mem_builtinNames_iff.mp (sound.usable c member _ named).free

/-- What the tests for a command, in the order in which they are made, find of a word. -/
def Selects (r : Registry C) (word : String) : Referent C → Prop
  | .help => normalize word = "help"
  | .leave => normalize word ≠ "help" ∧ (normalize word = "exit" ∨ normalize word = "quit")
  | .registered c =>
    normalize word ≠ "help" ∧ ¬(normalize word = "exit" ∨ normalize word = "quit") ∧
      r.lookup word = some c

private theorem StandsFor.selects (sound : r.Sound) {referent : Referent C}
    (stands : r.StandsFor word referent) : r.Selects word referent := by
  cases stands with
  | help named => exact named
  | leave leaves =>
    have notHelp : normalize word ≠ "help" := by
      rcases leaves with same | same <;> simp [same]
    exact ⟨notHelp, leaves⟩
  | @registered c member named =>
    obtain ⟨notHelp, notExit⟩ := sound.not_builtin member named
    exact ⟨notHelp, notExit, (sound.lookup_eq_some_iff_mem word c).mpr ⟨member, named⟩⟩

private theorem Selects.unique {referent other : Referent C} (first : r.Selects word referent)
    (second : r.Selects word other) : other = referent := by
  cases referent with
  | help =>
    cases other with
    | help => rfl
    | leave => exact absurd first second.1
    | registered d => exact absurd first second.1
  | leave =>
    cases other with
    | help => exact absurd second first.1
    | leave => rfl
    | registered d => exact absurd first.2 second.2.1
  | registered c =>
    cases other with
    | help => exact absurd second first.1
    | leave => exact absurd second.2 first.2.1
    | registered d => rw [Option.some.inj (first.2.2.symm.trans second.2.2)]

end Registry

namespace Command

variable {r : Registry C} {word : String} {tokens : List String}

private theorem kind_answer_ne_unknown (quiet : r.NeverReplies "unknown_command")
    {referent : Referent C} (stands : r.StandsFor word referent) (s : C) :
    (Action.run (referent.answer r word tokens) s).answer.kind ≠ "unknown_command" := by
  cases stands with
  | help =>
    rw [Referent.answer, Action.run_pure]
    rcases kind_helpReply r tokens with kind | kind <;> rw [kind] <;> decide
  | leave =>
    rw [Referent.answer, Action.run_pure]
    rcases kind_exitReply (normalize word) tokens with kind | kind <;> rw [kind] <;> decide
  | @registered c member =>
    rcases kind_bindAndInvoke c tokens s with kind | kind | ⟨args, reply, replied, kind⟩
    · rw [Referent.answer, kind]
      decide
    · rw [Referent.answer, kind]
      decide
    · rw [Referent.answer, kind]
      exact quiet c member args s reply replied

/-- A line is answered by the command that its first word stands for. -/
theorem dispatch_of_standsFor (sound : r.Sound) {text : String}
    (split : words text = word :: tokens) (nonempty : word ≠ "") {referent : Referent C}
    (stands : r.StandsFor word referent) : dispatch r text = referent.answer r word tokens := by
  have spelled : (Line.mk word tokens).isEmpty = false := by simp [Line.isEmpty, nonempty]
  have selects := stands.selects sound
  rw [dispatch_eq_dispatchLine split]
  simp only [dispatchLine, spelled, lookup_normalize, Bool.false_eq_true, if_false]
  cases referent with
  | help =>
    have named : normalize word = "help" := selects
    rw [if_pos named]
    rfl
  | leave =>
    obtain ⟨notHelp, leaves⟩ := selects
    rw [if_neg notHelp, if_pos leaves]
    rfl
  | registered c =>
    obtain ⟨notHelp, notExit, found⟩ := selects
    rw [if_neg notHelp, if_neg notExit, found]
    rfl

private theorem details_of_standsFor (sound : r.Sound) {referent : Referent C}
    (stands : r.StandsFor word referent) : details r word = some referent.description := by
  have selects := stands.selects sound
  unfold details
  cases referent with
  | help =>
    have named : normalize word = "help" := selects
    rw [if_pos named]
    rfl
  | leave =>
    obtain ⟨notHelp, leaves⟩ := selects
    rw [if_neg notHelp, if_pos leaves]
    rfl
  | registered c =>
    obtain ⟨notHelp, notExit, found⟩ := selects
    rw [if_neg notHelp, if_neg notExit, found]
    rfl

private theorem details_of_not_resolves (unresolved : ¬r.Resolves word) :
    details r word = none := by
  have free : normalize word ∉ builtinNames := fun builtin => unresolved (Or.inl builtin)
  obtain ⟨notHelp, notExit⟩ := not_mem_builtinNames_iff.mp free
  unfold details
  rw [if_neg notHelp, if_neg notExit, Registry.lookup_eq_none_of_not_resolves unresolved]
  rfl

private theorem run_dispatch_help (r : Registry C) (word : String) (s : C) :
    let asked := Action.run (dispatch r (lineOf ["help", word])) s
    asked.answer.kind = "help" ∧ asked.state = s ∧
      asked.answer.text? "content" =
        some ((details r word).getD ("No such command '" ++ word ++ "'")) := by
  have named : normalize "help" = "help" := by decide +kernel
  have answered : dispatch r (lineOf ["help", word]) = pure (helpReply r [word]) := by
    rw [dispatch_eq_dispatchLine (words_lineOf ["help", word])]
    simp only [dispatchLine, named, if_true]
    rfl
  rw [answered, Action.run_pure, helpReply_singleton]
  refine ⟨by simp, rfl, ?_⟩
  have apart : "command" ≠ Reply.kindField := by decide
  rw [Reply.text?, Reply.addText, Reply.get?_add _ apart, if_neg (by decide)]
  rfl

/-- Help says that there is no command of a word exactly if a line of the word alone is reported as
unknown. Any other word stands for one command: that command answers the lines which start with the
word, and help about the word shows the description of that command, with its own name and usage. -/
theorem help_describes_called_command {r : Registry C} (reachable : r.Reachable)
    (quiet : r.NeverReplies "unknown_command") {word : String} (nonempty : word ≠ "") (s t : C) :
    let asked := (Action.run (dispatch r (lineOf ["help", word])) s).answer
    let called := (Action.run (dispatch r (lineOf [word])) t).answer
    (asked.text? "content" = some ("No such command '" ++ word ++ "'") ↔
        called.kind = "unknown_command") ∧
      (called.kind ≠ "unknown_command" →
        ∃ referent, r.StandsFor word referent ∧
          (∀ other, r.StandsFor word other → other = referent) ∧
          (∀ text tokens, words text = word :: tokens →
            dispatch r text = referent.answer r word tokens) ∧
          asked.text? "content" = some referent.description ∧
          ∃ rest, referent.description =
            "Help for command '" ++ referent.name ++ "':\n  Usage: " ++ referent.usage ++
              rest) := by
  have sound := reachable.sound
  obtain ⟨-, -, content⟩ := run_dispatch_help r word s
  intro asked called
  by_cases resolves : r.Resolves word
  · obtain ⟨referent, stands⟩ := (Registry.resolves_iff sound).mp resolves
    have shown : asked.text? "content" = some referent.description := by
      rw [details_of_standsFor sound stands, Option.getD_some] at content
      exact content
    have answered : called.kind ≠ "unknown_command" := by
      have resolved := dispatch_of_standsFor sound (words_lineOf [word]) nonempty stands
      simp only [called, resolved]
      exact kind_answer_ne_unknown quiet stands t
    constructor
    · constructor
      · intro missing
        have same := Option.some.inj (shown.symm.trans missing)
        exact absurd same (referent.description_ne word)
      · intro unknown
        exact absurd unknown answered
    · intro _
      have unique : ∀ other, r.StandsFor word other → other = referent := fun other too =>
        (stands.selects sound).unique (too.selects sound)
      refine ⟨referent, stands, unique, ?_, shown, referent.exists_description_eq⟩
      intro text tokens split
      exact dispatch_of_standsFor sound split nonempty stands
  · have shown : asked.text? "content" = some ("No such command '" ++ word ++ "'") := by
      rw [details_of_not_resolves resolves, Option.getD_none] at content
      exact content
    have unknown : called.kind = "unknown_command" := by
      have spelled : ¬(word = "" ∧ ([] : List String) = []) := fun empty => nonempty empty.1
      simp only [called, run_dispatch_of_not_resolves (words_lineOf [word]) resolves spelled]
      exact kind_unknownReply r word
    exact ⟨⟨fun _ => unknown, fun _ => shown⟩, fun known => absurd unknown known⟩

private theorem neverReplies_threeCommands :
    (Action.run (Registry.attemptAll Registry.threeCommands)
      (.new .reject)).state.NeverReplies "unknown_command" := by
  intro c member args s reply replied
  obtain ⟨-, -, -, commands⟩ :=
    Registry.run_attemptAll (Registry.sound_new .reject) Registry.isDefined_threeCommands
  rw [commands] at member
  obtain ⟨call, kept, rfl⟩ := List.mem_map.mp member
  have given := (List.of_mem_zip (List.mem_filter.mp kept).1).1
  simp only [Registry.threeCommands, List.mem_cons, List.not_mem_nil, or_false] at given
  rcases given with same | same | same
  all_goals
    rw [same] at replied
    rw [← Outcome.replied.inj replied, Reply.kind_add]
    decide

/-- Help on an alias in other letters describes the command that has it. -/
theorem help_describes_called_command_plus :
    let r := (Action.run (Registry.attemptAll Registry.threeCommands) (.new .reject)).state
    r.Reachable ∧ r.NeverReplies "unknown_command" ∧
      (Action.run (dispatch r (lineOf [" PLUS "])) Tally.zero).answer.kind = "invalid_argument" ∧
      ∃ referent, r.StandsFor " PLUS " referent ∧ referent.name = "add" ∧
        (Action.run (dispatch r (lineOf ["help", " PLUS "])) Tally.zero).answer.text? "content" =
          some referent.description := by
  intro r
  have reachable : r.Reachable :=
    ⟨.reject, Registry.threeCommands, Registry.isDefined_threeCommands, rfl⟩
  have kind : (Action.run (dispatch r (lineOf [" PLUS "])) Tally.zero).answer.kind =
      "invalid_argument" := by decide +kernel
  obtain ⟨-, described⟩ := help_describes_called_command reachable neverReplies_threeCommands
    (show " PLUS " ≠ "" by decide) Tally.zero Tally.zero
  obtain ⟨referent, stands, only, -, shown, -⟩ := described (by rw [kind]; decide)
  refine ⟨reachable, neverReplies_threeCommands, kind, referent, stands, ?_, shown⟩
  obtain ⟨c, member, named, own⟩ : ∃ c ∈ r.commands, normalize " PLUS " ∈ c.names ∧
      c.name = "add" := by decide +kernel
  rw [← only _ (.registered member named)]
  exact own

end Command

end ProfileShell
