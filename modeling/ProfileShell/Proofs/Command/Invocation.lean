import ProfileShell.Command.Dispatch
import ProfileShell.Proofs.Command.Correspondence
import ProfileShell.Proofs.Command.Registration
import ProfileShell.Proofs.Command.Reply

/-!
Which lines run a handler, and what comes of it.

A line calls a command when its first word is one of the command's names and the other words bind to
the parameters. A dispatched line runs the handler that it calls, once and on the bound arguments,
and any other line is answered from the registry alone. To count the calls, every handler is made to
record its arguments before it goes on.
-/

set_option autoImplicit false
set_option relaxedAutoImplicit false

namespace ProfileShell

namespace Command

variable {C : Type}

/-- The command that a line calls and the arguments that it hands over. -/
def call? (r : Registry C) (text : String) : Option (Command C × Arguments) :=
  match words text with
  | [] => none
  | word :: tokens =>
    match r.lookup word with
    | none => none
    | some c =>
      match Arguments.bind c.parameters tokens with
      | .ok args => some (c, args)
      | .error _ => none

theorem call?_eq_some_iff (r : Registry C) (text : String) (c : Command C) (args : Arguments) :
    call? r text = some (c, args) ↔
      ∃ word tokens, words text = word :: tokens ∧ r.lookup word = some c ∧
        Arguments.bind c.parameters tokens = .ok args := by
  unfold call?
  constructor
  · intro called
    split at called
    · cases called
    · rename_i word tokens split
      split at called
      · cases called
      · rename_i d found
        split at called
        · rename_i bound matched
          cases called
          exact ⟨word, tokens, split, found, matched⟩
        · cases called
  · rintro ⟨word, tokens, split, found, bound⟩
    simp only [split, found, bound]

theorem call?_eq_some_iff_of_sound {r : Registry C} (sound : r.Sound) (text : String)
    (c : Command C) (args : Arguments) :
    call? r text = some (c, args) ↔
      ∃ word tokens, words text = word :: tokens ∧ c ∈ r.commands ∧ normalize word ∈ c.names ∧
        Arguments.bind c.parameters tokens = .ok args := by
  rw [call?_eq_some_iff]
  simp only [sound.lookup_eq_some_iff_mem, and_assoc]

theorem lookup_normalize (r : Registry C) (name : String) :
    r.lookup (normalize name) = r.lookup name := by
  simp only [Registry.lookup, normalize_normalize]

theorem lookup_eq_none_of_not_usable {r : Registry C} (sound : r.Sound) {name : String}
    (unusable : normalize name = "" ∨ normalize name ∈ builtinNames) : r.lookup name = none := by
  by_contra found
  obtain ⟨c, found⟩ := Option.ne_none_iff_exists'.mp found
  obtain ⟨registered, member⟩ := (sound.lookup_eq_some_iff_mem name c).mp found
  have usable := sound.usable c registered _ member
  rcases unusable with empty | builtin
  · exact usable.nonempty empty
  · exact usable.free builtin

theorem dispatch_eq_dispatchLine {r : Registry C} {text word : String} {tokens : List String}
    (split : words text = word :: tokens) :
    dispatch r text = dispatchLine r ⟨word, tokens⟩ := by
  simp only [dispatch, Line.ofText, split]

/-- All that can come of a line: a reply that does not depend on the context and leaves it as it is,
or a call of the handler of a registered command. -/
theorem dispatch_cases (r : Registry C) (text : String) :
    (∃ reply log, ∀ s, Action.run (dispatch r text) s = ⟨reply, s, log⟩) ∨
      ∃ c ∈ r.commands, ∃ args, dispatch r text = (do
        Action.note .debug s!"dispatching '{c.name}' with {args.size} argument(s)"
        invoke c args) := by
  -- The cases are the ways a dispatch ends, in the order of its tests.
  unfold dispatch dispatchLine
  simp only
  split
  · exact .inl ⟨_, [], fun _ => rfl⟩
  · split
    · exact .inl ⟨_, [], fun _ => rfl⟩
    · split
      · exact .inl ⟨_, [], fun _ => rfl⟩
      · split
        · rename_i c found
          unfold bindAndInvoke
          cases Arguments.bind c.parameters (Line.ofText text).arguments with
          | ok args => exact .inr ⟨c, Registry.mem_of_lookup found, args, rfl⟩
          | error e =>
            exact .inl ⟨.invalidArgument c.name e,
              [⟨.warn, s!"invalid arguments for '{c.name}': {e.message}"⟩], fun _ => rfl⟩
        · exact .inl ⟨unknownReply r (Line.ofText text).command,
            [⟨.debug, s!"unknown command '{(Line.ofText text).command}'"⟩], fun _ => rfl⟩

private theorem dispatch_eq_of_call {r : Registry C} (sound : r.Sound) {text : String}
    {c : Command C} {args : Arguments} (called : call? r text = some (c, args)) :
    dispatch r text = (do
      Action.note .debug s!"dispatching '{c.name}' with {args.size} argument(s)"
      invoke c args) := by
  obtain ⟨word, tokens, split, found, bound⟩ := (call?_eq_some_iff r text c args).mp called
  have free : normalize word ∉ builtinNames := by
    intro builtin
    simp [lookup_eq_none_of_not_usable sound (Or.inr builtin)] at found
  obtain ⟨notHelp, notExit⟩ := not_mem_builtinNames_iff.mp free
  have spelled : word ≠ "" := by
    rintro rfl
    have empty : normalize "" = "" := by decide +kernel
    simp [lookup_eq_none_of_not_usable sound (Or.inl empty)] at found
  have nonempty : (Line.mk word tokens).isEmpty = false := by simp [Line.isEmpty, spelled]
  rw [dispatch_eq_dispatchLine split]
  simp only [dispatchLine, nonempty, notHelp, notExit, lookup_normalize, found, bindAndInvoke,
    bound, if_false, Bool.false_eq_true]

def replyOf (c : Command C) : Outcome → Reply
  | .replied reply => reply
  | .failed _ => .handlerFault c.name
  | .panicked _ => .handlerFault c.name

theorem run_invoke (c : Command C) (args : Arguments) (s : C) :
    (Action.run (invoke c args) s).answer = replyOf c (Action.run (c.handler args) s).answer ∧
      (Action.run (invoke c args) s).state = (Action.run (c.handler args) s).state := by
  unfold invoke
  rw [Action.run_bind]
  cases (Action.run (c.handler args) s).answer <;> exact ⟨rfl, rfl⟩

/-- A line that calls a command is answered by the outcome of its handler and leaves the context as
the handler left it. -/
theorem run_dispatch_of_call {r : Registry C} (sound : r.Sound) {text : String} {c : Command C}
    {args : Arguments} (called : call? r text = some (c, args)) (s : C) :
    (Action.run (dispatch r text) s).answer =
        replyOf c (Action.run (c.handler args) s).answer ∧
      (Action.run (dispatch r text) s).state = (Action.run (c.handler args) s).state := by
  rw [dispatch_eq_of_call sound called, Action.run_bind]
  exact run_invoke c args s

/-- A line that leaves a loop: an exit word and nothing else. -/
def IsExitLine (text : String) : Prop :=
  ∃ word, words text = [word] ∧ (normalize word = "exit" ∨ normalize word = "quit")

private theorem isExitLine_iff_of_split {text word : String} {tokens : List String}
    (split : words text = word :: tokens) :
    IsExitLine text ↔ tokens = [] ∧ (normalize word = "exit" ∨ normalize word = "quit") := by
  unfold IsExitLine
  rw [split]
  constructor
  · rintro ⟨other, same, isExit⟩
    obtain ⟨rfl, rfl⟩ := List.cons.inj same
    exact ⟨rfl, isExit⟩
  · rintro ⟨rfl, isExit⟩
    exact ⟨word, rfl, isExit⟩

theorem kind_helpReply (r : Registry C) (tokens : List String) :
    (helpReply r tokens).kind = "help" ∨ (helpReply r tokens).kind = "invalid_argument" := by
  unfold helpReply
  split
  · simp
  · split <;> simp

theorem kind_unknownReply (r : Registry C) (input : String) :
    (unknownReply r input).kind = "unknown_command" := by
  unfold unknownReply
  simp only
  split <;> simp

private theorem exitReply_nil (name : String) : exitReply name [] = .exit := rfl

private theorem exitReply_cons (name token : String) (tokens : List String) :
    exitReply name (token :: tokens) =
      .invalidArgument name (.tooManyArguments 0 (tokens.length + 1)) := rfl

/-- What is known of the reply to a line that calls no command: it is an exit only for an exit
line. -/
def ExitsOnly (text : String) (reply : Reply) : Prop :=
  (reply.kind = "exit" → IsExitLine text) ∧ (IsExitLine text → reply = .exit)

private theorem exitsOnly_of_neither {text : String} {reply : Reply}
    (staying : reply.kind ≠ "exit") (other : ¬IsExitLine text) : ExitsOnly text reply :=
  ⟨fun kind => (staying kind).elim, fun isExit => (other isExit).elim⟩

section Split

variable {text word : String} {tokens : List String} (split : words text = word :: tokens)
include split

private theorem not_isExitLine_of_split
    (other : ¬(normalize word = "exit" ∨ normalize word = "quit")) : ¬IsExitLine text := by
  rw [isExitLine_iff_of_split split]
  exact fun isExit => other isExit.2

private theorem exitsOnly_exitReply (leaves : normalize word = "exit" ∨ normalize word = "quit") :
    ExitsOnly text (exitReply (normalize word) tokens) := by
  unfold ExitsOnly
  rw [isExitLine_iff_of_split split]
  cases tokens with
  | nil => exact ⟨fun _ => ⟨rfl, leaves⟩, fun _ => exitReply_nil _⟩
  | cons token tokens => simp [exitReply_cons]

end Split

/-- A line that calls no command is answered from the registry alone and leaves every context as it
is. -/
theorem run_dispatch_of_not_call (r : Registry C) {text : String}
    (uncalled : call? r text = none) :
    ∃ reply log, ExitsOnly text reply ∧
      ∀ s, Action.run (dispatch r text) s = ⟨reply, s, log⟩ := by
  cases split : words text with
  | nil =>
    have wordless : ¬IsExitLine text := by
      rintro ⟨word, same, -⟩
      simp [split] at same
    refine ⟨.empty, [], exitsOnly_of_neither (by decide) wordless, fun s => ?_⟩
    simp only [dispatch, Line.ofText, split]
    rfl
  | cons word tokens =>
    -- The cases are the ways a dispatch ends before a handler, in the order of its tests.
    rw [dispatch_eq_dispatchLine split]
    simp only [dispatchLine, lookup_normalize]
    by_cases empty : (Line.mk word tokens).isEmpty = true
    · have blank : word = "" := by simpa using (Bool.and_eq_true_iff.mp empty).1
      have stays := not_isExitLine_of_split split (by rw [blank]; decide +kernel)
      simp only [empty, if_true]
      exact ⟨.empty, [], exitsOnly_of_neither (by decide) stays, fun _ => rfl⟩
    simp only [empty, Bool.false_eq_true, if_false]
    by_cases help : normalize word = "help"
    · have stays := not_isExitLine_of_split split (by rw [help]; decide)
      have kind : (helpReply r tokens).kind ≠ "exit" := by
        rcases kind_helpReply r tokens with same | same <;> rw [same] <;> decide
      simp only [help, if_true]
      exact ⟨helpReply r tokens, [], exitsOnly_of_neither kind stays, fun _ => rfl⟩
    simp only [help, if_false]
    by_cases leaves : normalize word = "exit" ∨ normalize word = "quit"
    · simp only [leaves, if_true]
      exact ⟨_, [], exitsOnly_exitReply split leaves, fun _ => rfl⟩
    have stays := not_isExitLine_of_split split leaves
    simp only [leaves, if_false]
    cases found : r.lookup word with
    | none =>
      have kind : (unknownReply r word).kind ≠ "exit" := by
        rw [kind_unknownReply]
        decide
      exact ⟨unknownReply r word, [⟨.debug, s!"unknown command '{word}'"⟩],
        exitsOnly_of_neither kind stays, fun _ => rfl⟩
    | some c =>
      cases bound : Arguments.bind c.parameters tokens with
      | ok args =>
        have called := (call?_eq_some_iff r text c args).mpr ⟨word, tokens, split, found, bound⟩
        simp [uncalled] at called
      | error e =>
        simp only [bindAndInvoke, bound]
        exact ⟨.invalidArgument c.name e,
          [⟨.warn, s!"invalid arguments for '{c.name}': {e.message}"⟩],
          exitsOnly_of_neither (by simp) stays, fun _ => rfl⟩

end Command

/-- A context that remembers the calls of handlers. -/
structure Traced (C : Type) where
  context : C
  calls : List (Command C × Arguments)

namespace Command

variable {C : Type}

/-- The command whose handler notes its call before it goes on. -/
def traced (c : Command C) : Command (Traced C) :=
  ⟨c.name, c.aliases, c.summary, c.parameters, fun args => do
    modify fun (t : Traced C) => { t with calls := t.calls ++ [(c, args)] }
    Action.within Traced.context (fun context t => { t with context }) (c.handler args)⟩

theorem run_traced_handler (c : Command C) (args : Arguments) (t : Traced C) :
    (Action.run (c.traced.handler args) t).state =
      ⟨(Action.run (c.handler args) t.context).state, t.calls ++ [(c, args)]⟩ := rfl

private theorem traced_agrees (c : Command C) : Agrees (fun t s => t.context = s) c.traced c where
  name := rfl
  aliases := rfl
  summary := rfl
  parameters := rfl
  handler args := by
    rintro t s rfl -
    exact ⟨rfl, rfl⟩

end Command

namespace Registry

variable {C : Type}

def traced (r : Registry C) : Registry (Traced C) :=
  ⟨r.policy, r.commands.map Command.traced, r.index⟩

private theorem traced_agrees (r : Registry C) : Agrees (fun t s => t.context = s) r.traced r where
  policy := rfl
  commands := by
    unfold traced
    induction r.commands with
    | nil => exact List.Forall₂.nil
    | cons c cs ih => exact List.Forall₂.cons c.traced_agrees ih
  index := rfl

private theorem lookup_traced (r : Registry C) (name : String) :
    r.traced.lookup name = (r.lookup name).map Command.traced := by
  unfold lookup traced
  cases r.index.get? (Command.normalize name) with
  | none => rfl
  | some position => simp only [Option.bind_some, List.getElem?_map]

private theorem exists_traced_iff (r : Registry C) (position : Nat) (name : String) :
    (∃ c, r.traced.commands[position]? = some c ∧ name ∈ c.names) ↔
      ∃ c, r.commands[position]? = some c ∧ name ∈ c.names := by
  simp only [traced, List.getElem?_map, Option.map_eq_some_iff]
  constructor
  · rintro ⟨_, ⟨c, atPosition, rfl⟩, member⟩
    exact ⟨c, atPosition, member⟩
  · rintro ⟨c, atPosition, member⟩
    exact ⟨c.traced, ⟨c, atPosition, rfl⟩, member⟩

theorem Sound.traced {r : Registry C} (sound : r.Sound) : r.traced.Sound where
  index_iff name position := by
    rw [exists_traced_iff]
    exact sound.index_iff name position
  nodup := by
    have same : r.traced.commands.flatMap Command.names = r.commands.flatMap Command.names := by
      simp only [Registry.traced, List.flatMap_map]
      rfl
    rw [same]
    exact sound.nodup
  usable c member := by
    obtain ⟨d, registered, rfl⟩ := List.mem_map.mp member
    exact sound.usable d registered
  legal c member := by
    obtain ⟨d, registered, rfl⟩ := List.mem_map.mp member
    exact sound.legal d registered
  apart policy := List.pairwise_map.mpr (sound.apart policy)

end Registry

namespace Command

variable {C : Type}

theorem call?_traced (r : Registry C) (text : String) :
    call? r.traced text = (call? r text).map fun called => (called.1.traced, called.2) := by
  unfold call?
  cases words text with
  | nil => rfl
  | cons word tokens =>
    simp only [Registry.lookup_traced]
    cases r.lookup word with
    | none => rfl
    | some c =>
      have same : c.traced.parameters = c.parameters := rfl
      simp only [Option.map_some, same]
      cases Arguments.bind c.parameters tokens <;> rfl

theorem calls_dispatch {r : Registry C} (sound : r.Sound) (text : String) (t : Traced C) :
    (Action.run (dispatch r.traced text) t).state.calls = t.calls ++ (call? r text).toList := by
  have traced := call?_traced r text
  cases called : call? r text with
  | none =>
    rw [called] at traced
    obtain ⟨reply, log, -, unchanged⟩ := run_dispatch_of_not_call r.traced traced
    rw [unchanged t, Option.toList_none, List.append_nil]
  | some call =>
    obtain ⟨c, args⟩ := call
    rw [called] at traced
    rw [(run_dispatch_of_call sound.traced traced t).2, run_traced_handler]
    rfl

end Command

structure Dispatcher (C : Type) where
  registry : Registry C
  context : C

namespace Dispatcher

open Command (call? dispatch)

variable {C : Type}

def answer (text : String) : Action (Dispatcher C) Reply := do
  let d ← get
  Action.within context (fun context d => { d with context }) (dispatch d.registry text)

def answerAll : List String → Action (Dispatcher C) (List Reply)
  | [] => pure []
  | text :: texts => do
    let reply ← answer text
    let replies ← answerAll texts
    pure (reply :: replies)

def traced (d : Dispatcher C) : Dispatcher (Traced C) :=
  ⟨d.registry.traced, d.context, []⟩

private theorem run_answer (text : String) (d : Dispatcher C) :
    Action.run (answer text) d =
      ⟨(Action.run (dispatch d.registry text) d.context).answer,
        ⟨d.registry, (Action.run (dispatch d.registry text) d.context).state⟩,
        (Action.run (dispatch d.registry text) d.context).log⟩ := by
  unfold answer
  rw [Action.run_bind, Action.run_get]
  simp only [Action.run_within, List.nil_append]

private theorem registry_answer (text : String) (d : Dispatcher C) :
    (Action.run (answer text) d).state.registry = d.registry := by
  rw [run_answer]

private theorem answer_answerAll_cons (text : String) (texts : List String) (d : Dispatcher C) :
    (Action.run (answerAll (text :: texts)) d).answer =
      (Action.run (answer text) d).answer ::
        (Action.run (answerAll texts) (Action.run (answer text) d).state).answer := rfl

private theorem state_answerAll_cons (text : String) (texts : List String) (d : Dispatcher C) :
    (Action.run (answerAll (text :: texts)) d).state =
      (Action.run (answerAll texts) (Action.run (answer text) d).state).state := rfl

private theorem registry_answerAll (texts : List String) (d : Dispatcher C) :
    (Action.run (answerAll texts) d).state.registry = d.registry := by
  induction texts generalizing d with
  | nil => rfl
  | cons text texts ih =>
    rw [state_answerAll_cons, ih, registry_answer]

private theorem run_answerAll_traced {r : Registry C} (sound : r.Sound) (texts : List String)
    (t : Traced C) :
    let noted := Action.run (answerAll texts) ⟨r.traced, t⟩
    let plain := Action.run (answerAll texts) ⟨r, t.context⟩
    noted.answer = plain.answer ∧ noted.state.context.context = plain.state.context ∧
      noted.state.context.calls = t.calls ++ texts.filterMap (call? r) := by
  induction texts generalizing t with
  | nil => exact ⟨rfl, rfl, (List.append_nil _).symm⟩
  | cons text texts ih =>
    have calls := Command.calls_dispatch sound text t
    obtain ⟨reply, context⟩ := Command.dispatch_agrees r.traced_agrees text t t.context rfl
    obtain ⟨replies, final, later⟩ := ih (Action.run (dispatch r.traced text) t).state
    rw [context] at replies final
    rw [calls] at later
    simp only [answer_answerAll_cons, state_answerAll_cons, run_answer]
    refine ⟨by rw [reply, replies], final, ?_⟩
    rw [later, List.append_assoc]
    cases called : call? r text with
    | none => rw [List.filterMap_cons_none called]; rfl
    | some call => rw [List.filterMap_cons_some called]; rfl

/-- The lines that call a command, of the lines at hand and what is listed beside them. -/
def ofCalls {α : Type} (r : Registry C) (texts : List String) (besides : List α) : List α :=
  ((texts.zip besides).filter fun pair => (call? r pair.1).isSome).map Prod.snd

private theorem run_answerAll_filter (texts : List String) (d : Dispatcher C) :
    let called := Action.run
      (answerAll (texts.filter fun text => (call? d.registry text).isSome)) d
    let all := Action.run (answerAll texts) d
    called.state = all.state ∧ called.answer = ofCalls d.registry texts all.answer := by
  induction texts generalizing d with
  | nil => exact ⟨rfl, rfl⟩
  | cons text texts ih =>
    cases called : call? d.registry text with
    | none =>
      obtain ⟨reply, log, -, unchanged⟩ := Command.run_dispatch_of_not_call d.registry called
      have same : (Action.run (answer text) d).state = d := by
        rw [run_answer, unchanged d.context]
      rw [List.filter_cons_of_neg (by simp [called])]
      simp only [answer_answerAll_cons, state_answerAll_cons, same, ofCalls, List.zip_cons_cons]
      rw [List.filter_cons_of_neg (by simp [called])]
      exact ih d
    | some call =>
      rw [List.filter_cons_of_pos (by simp [called])]
      simp only [answer_answerAll_cons, state_answerAll_cons, ofCalls, List.zip_cons_cons]
      rw [List.filter_cons_of_pos (by simp [called]), List.map_cons]
      obtain ⟨state, answers⟩ := ih (Action.run (answer text) d).state
      rw [registry_answer] at state answers
      exact ⟨state, by rw [answers]; rfl⟩

theorem call?_eq_none_of_isExitLine {r : Registry C} (sound : r.Sound) {text : String}
    (isExit : Command.IsExitLine text) : call? r text = none := by
  obtain ⟨word, split, leaves⟩ := isExit
  have member : Command.normalize word ∈ Command.builtinNames :=
    Command.mem_builtinNames_iff.mpr (Or.inr leaves)
  unfold call?
  simp only [split, Command.lookup_eq_none_of_not_usable sound (Or.inr member)]

theorem run_dispatch_of_isExitLine {r : Registry C} (sound : r.Sound) {text : String}
    (isExit : Command.IsExitLine text) (s : C) :
    (Action.run (dispatch r text) s).answer = .exit ∧
      (Action.run (dispatch r text) s).state = s := by
  obtain ⟨reply, log, ⟨-, there⟩, answered⟩ :=
    Command.run_dispatch_of_not_call r (call?_eq_none_of_isExitLine sound isExit)
  rw [answered s]
  exact ⟨there isExit, rfl⟩

/-- A reply is an exit if the line is an exit line, or if a handler that it calls replies one. -/
theorem kind_dispatch_eq_exit_iff {r : Registry C} (sound : r.Sound) (text : String) (s : C) :
    (Action.run (dispatch r text) s).answer.kind = "exit" ↔
      Command.IsExitLine text ∨
        ∃ c args reply, call? r text = some (c, args) ∧
          (Action.run (c.handler args) s).answer = .replied reply ∧ reply.kind = "exit" := by
  cases called : call? r text with
  | none =>
    obtain ⟨reply, log, ⟨onlyThere, there⟩, answered⟩ :=
      Command.run_dispatch_of_not_call r called
    rw [answered s]
    constructor
    · intro kind
      exact Or.inl (onlyThere kind)
    · rintro (isExit | ⟨c, args, reply, impossible, -⟩)
      · rw [there isExit]
        rfl
      · cases impossible
  | some call =>
    obtain ⟨c, args⟩ := call
    rw [(Command.run_dispatch_of_call sound called s).1]
    constructor
    · intro kind
      refine Or.inr ⟨c, args, ?_⟩
      cases outcome : (Action.run (c.handler args) s).answer with
      | replied reply =>
        rw [outcome] at kind
        exact ⟨reply, rfl, rfl, kind⟩
      | failed failure => simp [outcome, Command.replyOf] at kind
      | panicked message => simp [outcome, Command.replyOf] at kind
    · rintro (isExit | ⟨d, others, reply, same, replied, kind⟩)
      · simp [call?_eq_none_of_isExitLine sound isExit] at called
      · cases same
        rw [replied]
        exact kind

/-- A line runs a handler exactly if it names a registered command and its other words bind to the
parameters. It runs it once and on the bound arguments; a reply of the handler is the answer, any
other end of it is answered as an internal error, and the context is what the handler made of it.
All other lines leave the context as it is and can be dropped from a run. -/
theorem dispatch_runs_called_handlers {r : Registry C} (reachable : r.Reachable) :
    (∀ text c args, call? r text = some (c, args) ↔
      ∃ word tokens, Command.words text = word :: tokens ∧ c ∈ r.commands ∧
        Command.normalize word ∈ c.names ∧ Arguments.bind c.parameters tokens = .ok args) ∧
    (∀ text c args s, call? r text = some (c, args) →
      (Action.run (dispatch r text) s).state = (Action.run (c.handler args) s).state ∧
        ((∃ reply, (Action.run (c.handler args) s).answer = .replied reply ∧
            (Action.run (dispatch r text) s).answer = reply) ∨
          (∀ reply, (Action.run (c.handler args) s).answer ≠ .replied reply) ∧
            (Action.run (dispatch r text) s).answer.toJson =
              .object [("type", .text "failed"), ("command", .text c.name),
                ("reason", .text "internal_error")])) ∧
    (∀ text s, call? r text = none → (Action.run (dispatch r text) s).state = s) ∧
    (∀ text s, (Action.run (dispatch r text) s).answer.kind = "exit" ↔
      Command.IsExitLine text ∨
        ∃ c args reply, call? r text = some (c, args) ∧
          (Action.run (c.handler args) s).answer = .replied reply ∧ reply.kind = "exit") ∧
    ∀ texts s,
      let run := Action.run (answerAll texts) ⟨r, s⟩
      let noted := Action.run (answerAll texts) (traced ⟨r, s⟩)
      let called := Action.run (answerAll (texts.filter fun text => (call? r text).isSome)) ⟨r, s⟩
      run.state.registry = r ∧
        noted.answer = run.answer ∧
        noted.state.context = ⟨run.state.context, texts.filterMap (call? r)⟩ ∧
        called.state = run.state ∧ called.answer = ofCalls r texts run.answer := by
  have sound := reachable.sound
  refine ⟨Command.call?_eq_some_iff_of_sound sound, ?_, ?_, kind_dispatch_eq_exit_iff sound, ?_⟩
  · intro text c args s called
    obtain ⟨answered, left⟩ := Command.run_dispatch_of_call sound called s
    refine ⟨left, ?_⟩
    rw [answered]
    cases (Action.run (c.handler args) s).answer with
    | replied reply => exact Or.inl ⟨reply, rfl, rfl⟩
    | failed failure =>
      exact Or.inr ⟨fun _ => Command.Outcome.noConfusion, Reply.toJson_handlerFault c.name⟩
    | panicked message =>
      exact Or.inr ⟨fun _ => Command.Outcome.noConfusion, Reply.toJson_handlerFault c.name⟩
  · intro text s uncalled
    obtain ⟨reply, log, -, unchanged⟩ := Command.run_dispatch_of_not_call r uncalled
    rw [unchanged s]
  · intro texts s
    obtain ⟨answers, context, calls⟩ := run_answerAll_traced sound texts ⟨s, []⟩
    obtain ⟨state, replies⟩ := run_answerAll_filter texts ⟨r, s⟩
    refine ⟨registry_answerAll texts ⟨r, s⟩, answers, ?_, state, replies⟩
    unfold traced
    rw [← context, ← List.nil_append (texts.filterMap (call? r)), ← calls]

theorem dispatch_runs_called_handlers_threeCommands :
    let r := (Action.run (Registry.attemptAll Registry.threeCommands) (.new .reject)).state
    r.Reachable ∧
      (Action.run (answerAll ["add 2", " ", "plus", " PLUS 3", "minus 1"]) ⟨r, Tally.zero⟩).state =
        (Action.run (answerAll ["add 2", " PLUS 3"]) ⟨r, Tally.zero⟩).state := by
  intro r
  have reachable : r.Reachable :=
    ⟨.reject, Registry.threeCommands, Registry.isDefined_threeCommands, rfl⟩
  refine ⟨reachable, ?_⟩
  obtain ⟨-, -, -, -, runs⟩ := dispatch_runs_called_handlers reachable
  obtain ⟨-, -, -, state, -⟩ := runs ["add 2", " ", "plus", " PLUS 3", "minus 1"] Tally.zero
  have calls : (["add 2", " ", "plus", " PLUS 3", "minus 1"].filter fun text =>
      (call? r text).isSome) = ["add 2", " PLUS 3"] := by
    decide +kernel
  rw [calls] at state
  exact state.symm

end Dispatcher

end ProfileShell
