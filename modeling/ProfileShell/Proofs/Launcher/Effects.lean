import ProfileShell.Proofs.Command.Invocation
import ProfileShell.Proofs.Launcher.Agreement
import ProfileShell.Proofs.Launcher.Choices

/-!
What each command of the launcher does to the records in memory.

A command that answers a success has changed the records in the one way that its name says. A
command that answers anything else has left them as they were, except that a session may have saved
the profile that was played.
-/

set_option autoImplicit false
set_option relaxedAutoImplicit false

namespace ProfileShell

namespace Profile

private theorem id_touch (p : Profile) (now : Binary64) : (p.touch now).id = p.id := by
  unfold touch
  split <;> rfl

private theorem id_resume (p : Profile) (now : Binary64) : (p.resume now).id = p.id := rfl

end Profile

private theorem Session.upholds_others (before : TextMap String) (id : String) :
    Upholds (fun s : MemoryStore => ∀ key, key ≠ id → s.records.get? key = before.get? key)
      (fun _ => True) (fun p => p.id = id) where
  tick _ _ := trivial
  touch c p _ same := by rw [Profile.id_touch, same]
  resume c p _ same := by rw [Profile.id_resume, same]
  award _ _ same := same
  write p same := by
    intro s kept
    unfold Task.Ensures
    cases valid : Record.isValidIdentifier p.id with
    | true =>
      rw [MemoryStore.runOn_write_of_valid valid]
      refine ⟨fun key other => ?_, fun _ _ => trivial⟩
      rw [TextMap.get?_insert, if_neg (same ▸ other)]
      exact kept key other
    | false =>
      obtain ⟨fault, refused⟩ := MemoryStore.runOn_write_of_invalid (s := s) valid p.toText
      rw [refused]
      exact ⟨kept, fun _ _ => trivial⟩

namespace Launcher

open ProfileShell.Task (Ensures)

structure Created (before after : TextMap String) (id name : String) : Prop where
  valid : Record.isValidIdentifier id = true
  fresh : before.get? id = none
  nonempty : name ≠ ""
  trimmed : Text.trim name = name
  records : after = before.insert id (Profile.new id name).toText

theorem Created.eq_of_insert {before after : TextMap String} {id name key text : String}
    (created : Created before after id name) (fresh : before.get? key = none)
    (records : after = before.insert key text) : key = id := by
  by_contra other
  have found : after.get? key = some text := by
    rw [records, TextMap.get?_insert, if_pos rfl]
  rw [created.records, TextMap.get?_insert, if_neg other, fresh] at found
  cases found

structure Removed (before after : TextMap String) (id : String) : Prop where
  present : before.contains id = true
  records : after = before.erase id

/-- The record of a readable profile has been replaced by one that differs in the identifier and
the name, under an identifier that was free or is the old one. -/
structure Renamed (before after : TextMap String) (oldId newId newName : String) (p : Profile) :
    Prop where
  readable : ∃ text, before.get? oldId = some text ∧ Profile.ofText text = .ok p
  valid : Record.isValidIdentifier newId = true
  free : newId = oldId ∨ before.get? newId = none
  nonempty : newName ≠ ""
  trimmed : Text.trim newName = newName
  records : ∀ key, after.get? key =
    if key = newId then some { p with id := newId, name := newName }.toText
    else if key = oldId then none
    else before.get? key

def Names (settings : Settings) (args : Arguments) (id : String) : Prop :=
  ∃ input, args.text? "profile_id" = some input ∧ id = stripExtension settings input

/-- The end of a command over some records: a success that had an effect, or anything else and the
records as they were. -/
def Ends (before : TextMap String) (effect : Launcher MemoryStore → Prop)
    (answer : Except Failure Reply) (t : Launcher MemoryStore) : Prop :=
  (∃ reply, answer = .ok reply ∧ reply.kind = "success" ∧ effect t) ∨
    t.records = before ∧ ∀ reply, answer = .ok reply → reply.kind ≠ "success"

section Endings

variable {before : TextMap String} {effect : Launcher MemoryStore → Prop}
variable {t : Launcher MemoryStore}

private theorem ends_success {reply : Reply} (kind : reply.kind = "success") (had : effect t) :
    Ends before effect (.ok reply) t :=
  Or.inl ⟨reply, rfl, kind, had⟩

private theorem ends_reply {reply : Reply} (same : t.records = before)
    (kind : reply.kind ≠ "success") : Ends before effect (.ok reply) t :=
  Or.inr ⟨same, fun _ answered => by cases answered; exact kind⟩

private theorem ends_failedWith {message : String} (same : t.records = before) :
    Ends before effect (.ok (.failedWith message)) t :=
  ends_reply same (by simp)

private theorem ends_interrupted (same : t.records = before) :
    Ends before effect (.ok .interrupted) t :=
  ends_reply same (by simp)

private theorem ends_error {e : Failure} (same : t.records = before) :
    Ends before effect (.error e) t :=
  Or.inr ⟨same, fun _ impossible => by cases impossible⟩

end Endings

variable (args : Arguments) (l : Launcher MemoryStore)

theorem runOn_isKnown (id : String) :
    (isKnown id).runOn l =
      ⟨.ok (Record.isValidIdentifier id && l.records.contains id), l, []⟩ := by
  unfold isKnown
  cases Record.isValidIdentifier id <;> rfl

private theorem profileIdentifier_bind {β : Type} {f : String → Task (Launcher MemoryStore) β}
    {Q : Except Failure β → Launcher MemoryStore → Prop}
    (named : ∀ id, Names l.settings args id → (f id).Ensures l Q)
    (unnamed : ∀ e, Q (.error e) l) : Ensures (profileIdentifier args >>= f) l Q := by
  unfold profileIdentifier
  cases given : args.text? "profile_id" with
  | none => exact Ensures.stop (w := []) rfl (unnamed _)
  | some input => exact Ensures.step (w := []) rfl (named _ ⟨input, given, rfl⟩)

private theorem load_talks (id : String) :
    Talks (Task.attempt (onStore (Profile.load id))) l fun outcome _ =>
      ∀ p, outcome = .ok p → Profile.Stores l.host.store id p := by
  refine Ensures.attempt ((onStore_talks (Profile.load_ensures l.host.store id)).mono ?_)
  rintro answer t ⟨talked, found⟩
  refine ⟨talked, ?_⟩
  rintro _ ⟨⟩
  exact found

private theorem listCommand_ensures :
    (listCommand args).Ensures l fun _ t => t.records = l.records := by
  unfold listCommand
  have listed : Talks (onStore Profile.list) l fun _ _ => True :=
    onStore_talks ((Profile.list_ensures l.host.store).mono fun _ _ found =>
      ⟨found.1, fun _ _ => trivial⟩)
  refine Talks.bind listed (fun summaries t talked _ => ?_) fun e t talked => talked.records
  split <;> exact Ensures.pure talked.records

private theorem created_ensures {id name : String} {t : Launcher MemoryStore}
    (same : t.records = l.records) (nonempty : name ≠ "") (trimmed : Text.trim name = name) :
    (Task.attempt (onStore (Profile.create id name))).Ensures t fun answer u =>
      (∃ p, answer = .ok (.ok p) ∧ Created l.records u.records id name) ∨
        (∃ e, answer = .ok (.error e)) ∧ u.records = l.records := by
  refine Ensures.attempt (onStore_ensures ?_)
  refine (Profile.create_ensures t.host.store id name).mono ?_
  rintro answer s (⟨rfl, valid, fresh, rfl⟩ | ⟨⟨e, rfl⟩, rfl⟩)
  · refine Or.inl ⟨_, rfl, valid, ?_, nonempty, trimmed, ?_⟩
    · rw [← same]
      exact fresh
    · rw [← same]
      rfl
  · exact Or.inr ⟨⟨e, rfl⟩, same⟩

theorem newCommand_ensures :
    (newCommand args).Ensures l (Ends l.records fun t =>
      ∃ id name, Created l.records t.records id name) := by
  unfold newCommand
  refine Talks.bind (chooseName_talks args _ l) ?_ fun e t talked => ends_error talked.records
  intro chosen t talked found
  cases chosen with
  | none => exact Ensures.pure (ends_interrupted talked.records)
  | some name =>
    obtain ⟨nonempty, trimmed⟩ := found name rfl
    refine Ensures.step (runOn_suggestIdentifier t name) ?_
    refine Talks.bind (chooseIdentifier_talks _ _ none t) ?_
      fun e v more => ends_error (talked.trans more).records
    intro choice v more available
    have same : v.records = l.records := (talked.trans more).records
    cases choice with
    | rejected problem => exact Ensures.pure (ends_failedWith same)
    | interrupted => exact Ensures.pure (ends_interrupted same)
    | accepted id =>
      refine Ensures.bind (created_ensures l same nonempty trimmed) ?_ ?_
      · rintro outcome w (⟨p, ⟨⟩, effect⟩ | ⟨⟨e, ⟨⟩⟩, unchanged⟩)
        · exact Ensures.pure (ends_success (by simp) ⟨id, name, effect⟩)
        · exact Ensures.step (w := [_]) rfl (Ensures.pure (ends_failedWith unchanged))
      · rintro e w (⟨p, ⟨⟩, -⟩ | ⟨⟨e, ⟨⟩⟩, -⟩)

private theorem known_bind {β : Type} {id : String} {f : Bool → Task (Launcher MemoryStore) β}
    {Q : Except Failure β → Launcher MemoryStore → Prop}
    (known : Record.isValidIdentifier id = true → l.records.contains id = true →
      (f true).Ensures l Q)
    (unknown : (f false).Ensures l Q) : Ensures (isKnown id >>= f) l Q := by
  refine Ensures.step (runOn_isKnown l id) ?_
  cases found : Record.isValidIdentifier id && l.records.contains id with
  | false => exact unknown
  | true =>
    obtain ⟨valid, present⟩ := Bool.and_eq_true_iff.mp found
    exact known valid present

/-- A removal was confirmed by an argument or, without that, by an answer. -/
def Confirmed (args : Arguments) (before after : Console) : Prop :=
  args.boolean? "confirm" = some true ∨
    args.boolean? "confirm" = none ∧ SaidYes before after

private theorem remove_ends {id : String} {t : Launcher MemoryStore} {message : String}
    (same : t.records = l.records) (names : Names l.settings args id)
    (present : l.records.contains id = true)
    (agreed : Confirmed args l.host.console t.host.console) :
    Ensures (do
      onStore (Profile.remove id)
      pure ((Reply.succeededWith message).addText "profile_id" id)) t
      (Ends l.records fun u => ∃ id, Names l.settings args id ∧ Removed l.records u.records id ∧
        Confirmed args l.host.console u.host.console) := by
  have removed : (onStore (Profile.remove id)).Ensures t fun answer u =>
      (answer = .ok () ∧ Removed l.records u.records id ∧ u.host.console = t.host.console) ∨
        (∃ e, answer = .error e) ∧ u.records = l.records := by
    refine onStore_ensures ((Profile.remove_ensures t.host.store id).mono ?_)
    rintro answer s (⟨rfl, -, rfl⟩ | ⟨failed, rfl⟩)
    · refine Or.inl ⟨rfl, ⟨present, ?_⟩, rfl⟩
      rw [← same]
      rfl
    · exact Or.inr ⟨failed, same⟩
  refine Ensures.bind removed ?_ ?_
  · rintro _ u (⟨-, effect, console⟩ | ⟨⟨e, impossible⟩, -⟩)
    · exact Ensures.pure (ends_success (by simp) ⟨id, names, effect, console ▸ agreed⟩)
    · cases impossible
  · rintro e u (⟨impossible, -⟩ | ⟨-, unchanged⟩)
    · cases impossible
    · exact ends_error unchanged

private theorem removeCommand_ensures :
    (removeCommand args).Ensures l (Ends l.records fun t =>
      ∃ id, Names l.settings args id ∧ Removed l.records t.records id ∧
        Confirmed args l.host.console t.host.console) := by
  unfold removeCommand
  refine profileIdentifier_bind args l (fun id names => ?_) fun e => ends_error rfl
  refine known_bind l (fun _ present => ?_) (Ensures.pure (ends_failedWith rfl))
  cases given : args.boolean? "confirm" with
  | some confirmed =>
    refine Ensures.step (w := []) rfl ?_
    cases confirmed with
    | false => exact Ensures.pure (ends_failedWith rfl)
    | true => exact remove_ends args l rfl names present (Or.inl given)
  | none =>
    refine Talks.bind (confirmRemoval_talks id l) (fun confirmed t talked agreed => ?_)
      fun e t talked => ends_error talked.records
    rcases confirmed with _ | _ | _
    · exact Ensures.pure (ends_interrupted talked.records)
    · exact Ensures.pure (ends_failedWith talked.records)
    · exact remove_ends args l talked.records names present (Or.inr ⟨given, agreed rfl⟩)

private theorem renamed_ensures {oldId newId newName : String} {t : Launcher MemoryStore}
    (same : t.records = l.records) (nonempty : newName ≠ "")
    (trimmed : Text.trim newName = newName) :
    (Task.attempt (onStore (Profile.rename oldId newId newName))).Ensures t fun answer u =>
      (∃ p q, answer = .ok (.ok p) ∧ Renamed l.records u.records oldId newId newName q) ∨
        (∃ e, answer = .ok (.error e)) ∧ u.records = l.records := by
  refine Ensures.attempt (onStore_ensures ?_)
  refine (Profile.rename_ensures t.host.store oldId newId newName).mono ?_
  rintro answer s (⟨p, ⟨text, q, found, content, rfl⟩, rfl, valid, free, rfl⟩ | ⟨⟨e, rfl⟩, rfl⟩)
  · refine Or.inl ⟨_, q, rfl, ⟨text, ?_, content⟩, valid, ?_, nonempty, trimmed, ?_⟩
    · rw [← same]
      exact found
    · rw [← same]
      exact free
    · intro key
      rw [← same]
      exact Profile.get?_moved t.host.store.records oldId _ key
  · exact Or.inr ⟨⟨e, rfl⟩, same⟩

theorem renameCommand_ensures :
    (renameCommand args).Ensures l (Ends l.records fun t =>
      ∃ oldId newId newName p, Names l.settings args oldId ∧
        Renamed l.records t.records oldId newId newName p) := by
  unfold renameCommand
  refine profileIdentifier_bind args l (fun oldId names => ?_) fun e => ends_error rfl
  refine known_bind l (fun _ _ => ?_) (Ensures.pure (ends_failedWith rfl))
  refine Talks.bind (load_talks l oldId) ?_ fun e t talked => ends_error talked.records
  intro outcome t talked loaded
  cases outcome with
  | error e => exact Ensures.step (w := [_]) rfl (Ensures.pure (ends_failedWith talked.records))
  | ok old =>
    -- Up to the renaming itself only the console changes, so the records stay those of `l`.
    refine say_bind fun u said _ => say_bind fun v again _ => ?_
    have talked := (talked.trans said).trans again
    refine Talks.bind (chooseName_talks args _ v) ?_
      fun e w more => ends_error (talked.trans more).records
    intro chosen w more found
    have talked := talked.trans more
    cases chosen with
    | none => exact Ensures.pure (ends_interrupted talked.records)
    | some newName =>
      obtain ⟨nonempty, trimmed⟩ := found newName rfl
      refine Ensures.step (runOn_suggestIdentifier w newName) ?_
      refine Talks.bind (chooseIdentifier_talks _ _ (some oldId) w) ?_
        fun e y more => ends_error (talked.trans more).records
      intro choice y more _
      have same : y.records = l.records := (talked.trans more).records
      cases choice with
      | rejected problem => exact Ensures.pure (ends_failedWith same)
      | interrupted => exact Ensures.pure (ends_interrupted same)
      | accepted newId =>
        refine Ensures.bind (renamed_ensures l same nonempty trimmed) ?_ ?_
        · rintro outcome z (⟨p, q, ⟨⟩, effect⟩ | ⟨⟨e, ⟨⟩⟩, unchanged⟩)
          · exact Ensures.pure (ends_success (by simp)
              ⟨oldId, newId, newName, q, names, effect⟩)
          · exact Ensures.step (w := [_]) rfl (Ensures.pure (ends_failedWith unchanged))
        · rintro e z (⟨p, q, ⟨⟩, -⟩ | ⟨⟨e, ⟨⟩⟩, -⟩)

theorem runCommand_ensures :
    (runCommand args).Ensures l fun _ t => t.records = l.records ∨
      ∃ id, Names l.settings args id ∧
        ∀ key, key ≠ id → t.records.get? key = l.records.get? key := by
  unfold runCommand
  refine profileIdentifier_bind args l (fun id names => ?_) fun e => Or.inl rfl
  refine known_bind l (fun _ _ => ?_) (Ensures.pure (Or.inl rfl))
  refine Talks.bind (load_talks l id) ?_ fun e t talked => Or.inl talked.records
  intro outcome t talked loaded
  cases outcome with
  | error e => exact Ensures.step (w := [_]) rfl (Ensures.pure (Or.inl talked.records))
  | ok p =>
    obtain ⟨text, q, -, -, stored⟩ := loaded p rfl
    have played : (onHost (Session.play t.settings p)).Ensures t fun _ u =>
        ∀ key, key ≠ id → u.records.get? key = l.records.get? key := by
      have kept := (Session.play_keeps (Session.upholds_others l.records id) t.settings
        (p := p) (by rw [stored])) t.host ⟨fun key _ => by rw [← talked.records]; rfl, trivial⟩
      exact Ensures.within (kept.mono fun _ _ found => found.1.1)
    refine Ensures.step (w := []) rfl (Ensures.bind played ?_ ?_)
    · intro _ u others
      exact Ensures.pure (Or.inr ⟨id, names, others⟩)
    · intro e u others
      exact Or.inr ⟨id, names, others⟩

def registry (policy : OverlapPolicy) : Registry (Launcher MemoryStore) :=
  (Registry.ofCommands policy commands).state

theorem isDefined_commands {σ : Type} [RecordStore σ] :
    ∀ c ∈ (commands : List (Command (Launcher σ))), c.IsDefined := by
  intro c member
  simp only [commands, List.mem_cons, List.not_mem_nil, or_false] at member
  rcases member with rfl | rfl | rfl | rfl | rfl <;> exact Command.isDefined_define _ _ _ _ _

/-- Every policy accepts all commands of a launcher. It does not matter over which store, since
whether commands are accepted does not depend on what their handlers do. -/
theorem answer_ofCommands {σ : Type} [RecordStore σ] (policy : OverlapPolicy) :
    (Registry.ofCommands policy (commands (σ := σ))).answer = .ok () := by
  have unrelated : RecordStore.Agree fun (_ : σ) (_ : MemoryStore) => False :=
    ⟨fun _ _ no => no.elim, fun _ _ _ no => no.elim, fun _ _ _ no => no.elim,
      fun _ _ _ no => no.elim, fun _ _ _ _ no => no.elim, fun _ _ _ no => no.elim⟩
  have same := Registry.registerAll_agrees (commands_agree unrelated) _ _
    (Registry.agreesUntil_new policy)
  have accepted : (Registry.ofCommands policy (commands (σ := MemoryStore))).answer = .ok () := by
    cases policy <;> decide +kernel
  exact same.1.trans accepted

theorem sound_registry (policy : OverlapPolicy) : (registry policy).Sound :=
  Registry.sound_ofCommands policy isDefined_commands

theorem commands_registry (policy : OverlapPolicy) : (registry policy).commands = commands :=
  Registry.commands_ofCommands isDefined_commands (answer_ofCommands policy)

theorem mem_registry (policy : OverlapPolicy) {i : Nat} {c : Command (Launcher MemoryStore)}
    (listed : commands[i]? = some c) : c ∈ (registry policy).commands := by
  rw [commands_registry]
  exact List.mem_of_getElem? listed

theorem state_dispatch_of_task {policy : OverlapPolicy} {text : String}
    {c : Command (Launcher MemoryStore)} {args : Arguments}
    (called : Command.call? (registry policy) text = some (c, args))
    {task : Arguments → Task (Launcher MemoryStore) Reply} (does : c.handler = .ofTask task)
    (l : Launcher MemoryStore) :
    (Action.run (Command.dispatch (registry policy) text) l).state =
      ((task args).runOn l).state := by
  rw [(Command.run_dispatch_of_call (sound_registry policy) called l).2, does,
    Handler.run_ofTask]

theorem answer_dispatch_of_task {policy : OverlapPolicy} {text : String}
    {c : Command (Launcher MemoryStore)} {args : Arguments}
    (called : Command.call? (registry policy) text = some (c, args))
    {task : Arguments → Task (Launcher MemoryStore) Reply} (does : c.handler = .ofTask task)
    (l : Launcher MemoryStore) {reply : Reply}
    (replied : ((task args).runOn l).answer = .ok reply) :
    (Action.run (Command.dispatch (registry policy) text) l).answer = reply := by
  rw [(Command.run_dispatch_of_call (sound_registry policy) called l).1, does, Handler.run_ofTask,
    replied]
  rfl

theorem run_dispatch_of_task {policy : OverlapPolicy} {text : String}
    {c : Command (Launcher MemoryStore)} {args : Arguments}
    (called : Command.call? (registry policy) text = some (c, args))
    {task : Arguments → Task (Launcher MemoryStore) Reply} (does : c.handler = .ofTask task)
    (l : Launcher MemoryStore) {effect : Launcher MemoryStore → Prop}
    (ensures : (task args).Ensures l (Ends l.records effect)) :
    let run := Action.run (Command.dispatch (registry policy) text) l
    if run.answer.kind = "success" then effect run.state else run.state.records = l.records := by
  have answered := (Command.run_dispatch_of_call (sound_registry policy) called l).1
  simp only
  rw [answered, state_dispatch_of_task called does, does, Handler.run_ofTask]
  rcases ensures with ⟨reply, ok, kind, had⟩ | ⟨same, other⟩
  · rw [ok]
    simp only [Command.replyOf, kind, if_true]
    exact had
  · cases outcome : ((task args).runOn l).answer with
    | ok reply =>
      simp only [Command.replyOf, other reply outcome, if_false]
      exact same
    | error e =>
      simp only [Command.replyOf, Reply.kind_handlerFault, String.reduceEq, if_false]
      exact same

/-- What a dispatched line does to the records. Only the commands `new`, `rm` and `mv` change them,
each in one way and only where the reply is a success; a session changes the record of the profile
that is played at most. -/
theorem dispatch_effect (policy : OverlapPolicy) (text : String) (l : Launcher MemoryStore) :
    let run := Action.run (Command.dispatch (registry policy) text) l
    (Command.call? (registry policy) text = none → run.state.records = l.records) ∧
    ∀ c args, Command.call? (registry policy) text = some (c, args) →
      (c.name = "list" ∧ run.state.records = l.records) ∨
      (c.name = "new" ∧
        if run.answer.kind = "success" then
          ∃ id name, Created l.records run.state.records id name
        else run.state.records = l.records) ∨
      (c.name = "rm" ∧
        if run.answer.kind = "success" then
          ∃ id, Names l.settings args id ∧ Removed l.records run.state.records id ∧
            Confirmed args l.host.console run.state.host.console
        else run.state.records = l.records) ∨
      (c.name = "mv" ∧
        if run.answer.kind = "success" then
          ∃ oldId newId newName p, Names l.settings args oldId ∧
            Renamed l.records run.state.records oldId newId newName p
        else run.state.records = l.records) ∨
      (c.name = "run" ∧
        (run.state.records = l.records ∨ ∃ id, Names l.settings args id ∧
          ∀ key, key ≠ id → run.state.records.get? key = l.records.get? key)) := by
  refine ⟨fun uncalled => ?_, fun c args called => ?_⟩
  · obtain ⟨reply, log, -, unchanged⟩ := Command.run_dispatch_of_not_call _ uncalled
    rw [unchanged l]
  · obtain ⟨-, -, -, member, -, -⟩ :=
      (Command.call?_eq_some_iff_of_sound (sound_registry policy) text c args).mp called
    rw [commands_registry] at member
    simp only [commands, List.mem_cons, List.not_mem_nil, or_false] at member
    rcases member with rfl | rfl | rfl | rfl | rfl
    · refine Or.inl ⟨by decide +kernel, ?_⟩
      rw [state_dispatch_of_task called (Command.handler_define ..)]
      exact listCommand_ensures args l
    · refine Or.inr (Or.inl ⟨by decide +kernel, ?_⟩)
      have ends := run_dispatch_of_task called (Command.handler_define ..) l
        (newCommand_ensures args l)
      exact ends
    · refine Or.inr (Or.inr (Or.inr (Or.inr ⟨by decide +kernel, ?_⟩)))
      rw [state_dispatch_of_task called (Command.handler_define ..)]
      exact runCommand_ensures args l
    · refine Or.inr (Or.inr (Or.inl ⟨by decide +kernel, ?_⟩))
      have ends := run_dispatch_of_task called (Command.handler_define ..) l
        (removeCommand_ensures args l)
      exact ends
    · refine Or.inr (Or.inr (Or.inr (Or.inl ⟨by decide +kernel, ?_⟩)))
      have ends := run_dispatch_of_task called (Command.handler_define ..) l
        (renameCommand_ensures args l)
      exact ends

end Launcher

end ProfileShell
