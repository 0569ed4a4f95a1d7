import ProfileShell.Proofs.Launcher.WellFormed
import ProfileShell.Proofs.Session.Conversation

/-!
What one line does in a play session.

A session is seen over a chronicle, which shows every state of the store. A line that calls `save`
counts the playtime and writes the profile, a line that calls `xp` with a positive amount awards it,
and any other line changes nothing but the console.
-/

set_option autoImplicit false
set_option relaxedAutoImplicit false

namespace ProfileShell

namespace Command

/-- What a line hands to a command of a name and some parameters, if it calls such a command. -/
def argumentsFor? (name : String) (parameters : List Parameter) (line : String) :
    Option Arguments :=
  match words line with
  | [] => none
  | word :: tokens =>
    if normalize word = name then (Arguments.bind parameters tokens).toOption else none

variable {C : Type} {r : Registry C} {c : Command C} {args : Arguments} {name line : String}
variable {parameters : List Parameter}

theorem argumentsFor?_eq_some_iff :
    argumentsFor? name parameters line = some args ↔
      ∃ word tokens, words line = word :: tokens ∧ normalize word = name ∧
        Arguments.bind parameters tokens = .ok args := by
  unfold argumentsFor?
  cases split : words line with
  | nil => simp
  | cons word tokens =>
    by_cases named : normalize word = name
    · cases bound : Arguments.bind parameters tokens <;> simp [named, bound, Except.toOption]
    · simp [named]

private theorem call?_of_argumentsFor? (sound : r.Sound) (member : c ∈ r.commands)
    (named : name ∈ c.names) (handed : argumentsFor? name c.parameters line = some args) :
    call? r line = some (c, args) := by
  obtain ⟨word, tokens, split, rfl, bound⟩ := argumentsFor?_eq_some_iff.mp handed
  exact (call?_eq_some_iff_of_sound sound line c args).mpr
    ⟨word, tokens, split, member, named, bound⟩

private theorem argumentsFor?_of_call (sound : r.Sound) (called : call? r line = some (c, args))
    (named : c.names = [name]) : argumentsFor? name c.parameters line = some args := by
  obtain ⟨word, tokens, split, -, member, bound⟩ :=
    (call?_eq_some_iff_of_sound sound line c args).mp called
  rw [named, List.mem_singleton] at member
  exact argumentsFor?_eq_some_iff.mpr ⟨word, tokens, split, member, bound⟩

private theorem argumentsFor?_of_other_call (sound : r.Sound)
    (called : call? r line = some (c, args))
    (other : name ∉ c.names) : argumentsFor? name parameters line = none := by
  rw [Option.eq_none_iff_forall_ne_some]
  intro otherArgs handed
  obtain ⟨word, tokens, split, -, member, -⟩ :=
    (call?_eq_some_iff_of_sound sound line c args).mp called
  obtain ⟨word', tokens', split', rfl, -⟩ := argumentsFor?_eq_some_iff.mp handed
  rw [split] at split'
  cases split'
  exact other member

end Command

namespace MemoryStore

/-- The store after a profile was written to it; an identifier that is not valid is refused. -/
def recorded (s : MemoryStore) (p : Profile) : MemoryStore :=
  if Record.isValidIdentifier p.id then ⟨s.records.insert p.id p.toText⟩ else s

private theorem runOn_write_profile (s : MemoryStore) (p : Profile) :
    (RecordStore.write p.id p.toText : Task MemoryStore Unit).runOn s =
      ⟨Record.checkIdentifier p.id, s.recorded p, []⟩ := by
  unfold recorded
  cases valid : Record.isValidIdentifier p.id with
  | true =>
    rw [runOn_write_of_valid valid, Record.checkIdentifier_of_valid valid]
    rfl
  | false =>
    obtain ⟨fault, refused⟩ := Record.checkIdentifier_of_invalid valid
    change (MemoryStore.write p.id p.toText).runOn s = _
    unfold MemoryStore.write
    rw [refused]
    rfl

end MemoryStore

def Chronicle.recorded (c : Chronicle) (p : Profile) : Chronicle :=
  ⟨c.current.recorded p, c.states⟩

private theorem Chronicle.runOn_write_profile (c : Chronicle) (p : Profile) :
    (RecordStore.write p.id p.toText : Task Chronicle Unit).runOn c =
      ⟨Record.checkIdentifier p.id, c.recorded p, []⟩ := by
  change (remembering (RecordStore.write p.id p.toText)).runOn c = _
  unfold remembering
  rw [Task.runOn_within, MemoryStore.runOn_write_profile]
  rfl

namespace Session

open ProfileShell.Command (IsExitLine argumentsFor?)
open ProfileShell.Task (Ensures)

def amount? (args : Arguments) : Option Int64 :=
  (args.integer? "amount").filter fun amount => 0 < amount.toInt

/-- The amount of experience that a line awards: one that binds to the command and is positive. -/
def awarded? (line : String) : Option Int64 :=
  (argumentsFor? "xp" [.needed "amount" .integer] line).bind amount?

def isSave (line : String) : Bool :=
  (argumentsFor? "save" [] line).isSome

structure Standing where
  profile : Profile
  clock : Clock
  store : Chronicle

namespace Standing

variable (x : Standing)

def award (amount : Int64) : Standing :=
  { x with profile :=
    { x.profile with characterXp := x.profile.characterXp + Binary64.ofInt amount.toInt } }

def save : Standing :=
  let p := x.profile.touch x.clock.now
  ⟨p, x.clock.tick, x.store.recorded p⟩

def answer (line : String) : Standing :=
  match awarded? line with
  | some amount => x.award amount
  | none => if isSave line then x.save else x

end Standing

def standing (s : Session Chronicle) : Standing :=
  ⟨s.profile, s.host.clock, s.host.store⟩

theorem save_ensures (s : Session Chronicle) :
    Task.Ensures save s fun answer t =>
      answer = Record.checkIdentifier t.profile.id ∧ t.standing = s.standing.save ∧
        t.host.console = s.host.console := by
  let ticked : Host Chronicle := { s.host with clock := s.host.clock.tick }
  let touched := s.profile.touch s.host.clock.now
  unfold save
  refine Ensures.step (b := s.host.clock.now) (t := ⟨ticked, s.profile⟩) (w := []) rfl ?_
  refine Ensures.step (t := ⟨ticked, touched⟩) (w := []) rfl ?_
  refine Ensures.step (b := ⟨ticked, touched⟩) (t := ⟨ticked, touched⟩) (w := []) rfl ?_
  refine Ensures.within ?_
  unfold Ensures Profile.save
  rw [Chronicle.runOn_write_profile]
  exact ⟨rfl, rfl, rfl⟩

/-- A command that does not leave the session and talks with nobody. -/
def Stays (before after : Session Chronicle) (answer : Except Failure Reply) : Prop :=
  after.host.console = before.host.console ∧ ∀ reply, answer = .ok reply → reply.kind ≠ "exit"

section Commands

variable (args : Arguments) (s : Session Chronicle)

private theorem stays_reply {t : Session Chronicle} {reply : Reply}
    (silent : t.host.console = s.host.console) (kind : reply.kind ≠ "exit") :
    Stays s t (.ok reply) :=
  ⟨silent, fun _ same => by cases same; exact kind⟩

private theorem stays_error {t : Session Chronicle} {e : Failure}
    (silent : t.host.console = s.host.console) : Stays s t (.error e) :=
  ⟨silent, fun _ impossible => by cases impossible⟩

private theorem saveCommand_ensures :
    Task.Ensures (saveCommand args) s fun answer t =>
      t.standing = s.standing.save ∧ Stays s t answer := by
  unfold saveCommand
  refine Ensures.bind (P := fun answer t => (∃ outcome, answer = .ok outcome) ∧
    t.standing = s.standing.save ∧ t.host.console = s.host.console) ?_ ?_ ?_
  · exact Ensures.attempt ((save_ensures s).mono fun answer t saved => ⟨⟨answer, rfl⟩, saved.2⟩)
  · rintro outcome t ⟨-, saved, silent⟩
    cases outcome with
    | ok _ => exact Ensures.pure ⟨saved, stays_reply s silent (by simp)⟩
    | error e =>
      refine Ensures.step (b := t) (t := t) (w := []) rfl ?_
      refine Ensures.step (t := t) (w := [_]) rfl ?_
      exact Ensures.pure ⟨saved, stays_reply s silent (by simp)⟩
  · rintro e t ⟨⟨_, impossible⟩, -⟩
    cases impossible

private theorem statusCommand_ensures :
    Task.Ensures (statusCommand args) s fun answer t =>
      t.standing = s.standing ∧ Stays s t answer := by
  unfold statusCommand
  refine Ensures.step (b := s) (t := s) (w := []) rfl ?_
  cases args.text? "skill" with
  | some skill => exact Ensures.pure ⟨rfl, stays_reply s rfl (by simp)⟩
  | none => exact Ensures.pure ⟨rfl, stays_reply s rfl (by simp)⟩

private theorem xpCommand_ensures :
    Task.Ensures (xpCommand args) s fun answer t =>
      t.standing = ((amount? args).map s.standing.award).getD s.standing ∧ Stays s t answer := by
  unfold xpCommand amount?
  cases args.integer? "amount" with
  | none => exact Ensures.throw ⟨rfl, stays_error s rfl⟩
  | some amount =>
    by_cases few : amount.toInt ≤ 0
    · have refused : ¬0 < amount.toInt := by omega
      simp only [if_pos few, Option.filter, refused, decide_false, Bool.false_eq_true, if_false]
      exact Ensures.pure ⟨rfl, stays_reply s rfl (by simp)⟩
    · have accepted : 0 < amount.toInt := by omega
      simp only [if_neg few, Option.filter, accepted, decide_true, if_true]
      refine Ensures.step (b := s) (t := s) (w := []) rfl ?_
      exact Ensures.step (w := []) rfl (Ensures.pure ⟨rfl, stays_reply s rfl (by simp)⟩)

end Commands

theorem answer_menu (policy : OverlapPolicy) :
    (Registry.ofCommands policy (commands (σ := Chronicle))).answer = .ok () := by
  cases policy <;> decide +kernel

private theorem commands_menu (policy : OverlapPolicy) :
    (menu policy : Registry (Session Chronicle)).commands = commands :=
  Registry.commands_ofCommands isDefined_commands (answer_menu policy)

theorem sound_menu (policy : OverlapPolicy) : (menu policy : Registry (Session Chronicle)).Sound :=
  (menu_consumes policy).sound

section Lines

variable {policy : OverlapPolicy} {line : String}

private theorem names_commands :
    (commands (σ := Chronicle)).map (fun c => (c.names, c.parameters)) =
      [(["save"], []), (["status", "stats"], [.optional "skill" .text]),
        (["xp"], [.needed "amount" .integer])] := by
  decide +kernel

private theorem argumentsFor?_eq_none_of_not_call {name : String} {parameters : List Parameter}
    (uncalled : Command.call? (menu (σ := Chronicle) policy) line = none)
    (member : ([name], parameters) ∈
      (commands (σ := Chronicle)).map fun c => (c.names, c.parameters)) :
    argumentsFor? name parameters line = none := by
  obtain ⟨c, registered, same⟩ := List.mem_map.mp member
  obtain ⟨names, rfl⟩ := Prod.mk.inj same
  rw [← commands_menu policy] at registered
  rw [Option.eq_none_iff_forall_ne_some]
  intro args handed
  have called := Command.call?_of_argumentsFor? (sound_menu policy) registered
    (by rw [names]; exact List.mem_singleton_self name) handed
  rw [uncalled] at called
  cases called

theorem answer_of_not_call (uncalled : Command.call? (menu (σ := Chronicle) policy) line = none)
    (x : Standing) : x.answer line = x := by
  have save : argumentsFor? "save" [] line = none :=
    argumentsFor?_eq_none_of_not_call uncalled (by simp [names_commands])
  have xp : argumentsFor? "xp" [.needed "amount" .integer] line = none :=
    argumentsFor?_eq_none_of_not_call uncalled (by simp [names_commands])
  simp [Standing.answer, awarded?, isSave, save, xp]

private theorem task_ensures {c : Command (Session Chronicle)} {args : Arguments}
    (called : Command.call? (menu policy) line = some (c, args)) (s : Session Chronicle) :
    ∃ task, c.handler = .ofTask task ∧ Task.Ensures (task args) s fun answer t =>
      t.standing = s.standing.answer line ∧ Stays s t answer := by
  obtain ⟨_, _, _, member, _⟩ :=
    (Command.call?_eq_some_iff_of_sound (sound_menu policy) line c args).mp called
  have other (name : String) {parameters : List Parameter} (unnamed : name ∉ c.names) :
      argumentsFor? name parameters line = none :=
    Command.argumentsFor?_of_other_call (sound_menu policy) called unnamed
  have own {name : String} (named : c.names = [name]) :
      argumentsFor? name c.parameters line = some args :=
    Command.argumentsFor?_of_call (sound_menu policy) called named
  rw [commands_menu] at member
  simp only [commands, List.mem_cons, List.not_mem_nil, or_false] at member
  unfold Standing.answer awarded? isSave
  rcases member with rfl | rfl | rfl
  · have save : argumentsFor? "save" [] line = some args := own (by decide +kernel)
    refine ⟨saveCommand, rfl, ?_⟩
    rw [other "xp" (by decide +kernel), save]
    exact saveCommand_ensures args s
  · refine ⟨statusCommand, rfl, ?_⟩
    rw [other "xp" (by decide +kernel), other "save" (by decide +kernel)]
    exact statusCommand_ensures args s
  · have xp : argumentsFor? "xp" [.needed "amount" .integer] line = some args :=
      own (by decide +kernel)
    refine ⟨xpCommand, rfl, (xpCommand_ensures args s).mono ?_⟩
    rintro answer t ⟨standing, stays⟩
    rw [other "save" (by decide +kernel), xp, Option.bind_some]
    refine ⟨standing.trans ?_, stays⟩
    cases amount? args <;> rfl

private theorem dispatch_ends (policy : OverlapPolicy) (line : String) (s : Session Chronicle) :
    let run := Action.run (Command.dispatch (menu policy) line) s
    (run.answer.isExit = true ↔ IsExitLine line) ∧
      run.state.standing = s.standing.answer line ∧ run.state.host.console = s.host.console := by
  intro run
  constructor
  · rw [Reply.isExit, beq_iff_eq, Dispatcher.kind_dispatch_eq_exit_iff (sound_menu policy) line s]
    refine ⟨?_, Or.inl⟩
    rintro (isExit | ⟨c, args, reply, called, replied, kind⟩)
    · exact isExit
    · obtain ⟨task, does, -, -, staying⟩ := task_ensures called s
      rw [does, Handler.run_ofTask] at replied
      cases answer : ((task args).runOn s).answer with
      | ok other =>
        rw [answer] at replied
        cases replied
        exact absurd kind (staying reply answer)
      | error e =>
        rw [answer] at replied
        cases replied
  · cases called : Command.call? (menu (σ := Chronicle) policy) line with
    | none =>
      obtain ⟨reply, log, -, unchanged⟩ :=
        Command.run_dispatch_of_not_call (menu (σ := Chronicle) policy) called
      simp only [run, unchanged s, answer_of_not_call called, and_self]
    | some call =>
      obtain ⟨c, args⟩ := call
      obtain ⟨task, does, standing, silent, -⟩ := task_ensures called s
      have same := (Command.run_dispatch_of_call (sound_menu policy) called s).2
      rw [does, Handler.run_ofTask] at same
      simp only [run, same]
      exact ⟨standing, silent⟩

theorem standing_said (text : String) (s : Session Chronicle) :
    (Console.said text s).standing = s.standing := rfl

/-- What a line does to the standing is all it does beside the replies that are printed, and only an
exit line is answered by an exit. -/
theorem answerLine_ensures (policy : OverlapPolicy) (line : String) (s : Session Chronicle) :
    (Shell.answerLine (menu policy) line).Ensures s fun answer t =>
      (∃ reply, answer = .ok reply ∧ (reply.isExit = true ↔ IsExitLine line)) ∧
        t.standing = s.standing.answer line ∧
        t.host.console.pending = s.host.console.pending := by
  obtain ⟨exits, standing, silent⟩ := dispatch_ends policy line s
  refine (Shell.answerLine_ensures (menu policy) line s).mono ?_
  rintro answer _ ⟨rfl, lines, rfl, -⟩
  refine ⟨⟨_, rfl, exits⟩, ?_⟩
  rw [← standing, ← silent]
  generalize (Action.run (Command.dispatch (menu policy) line) s).state = t
  induction lines generalizing t with
  | nil => exact ⟨rfl, rfl⟩
  | cons text lines ih => exact ih (Console.said text t)

end Lines

end Session

end ProfileShell
