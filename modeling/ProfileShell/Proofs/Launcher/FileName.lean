import ProfileShell.Program
import ProfileShell.Proofs.FileSystem.Entry
import ProfileShell.Proofs.Launcher.Addressing
import ProfileShell.Proofs.Launcher.Invariance
import ProfileShell.Proofs.Record.DirectoryStore

/-!
The name of a profile's file on the lines of the launcher.

The store and the launcher take the record extension from the same settings, but only the store
drops the dots in front of it. The name of a file is taken for the identifier of its profile exactly
if there are no such dots; then the lines that name the file play, remove and rename that profile.
-/

set_option autoImplicit false
set_option relaxedAutoImplicit false

namespace ProfileShell

open ProfileShell.Record (IsExtension fileName isValidIdentifier)
open ProfileShell.Task (Ensures)

namespace DirectoryStore

variable {d : DirectoryStore} {id : String}

/-! To look at the store does not change it. -/

private theorem holds_keeps (d : DirectoryStore) (id : String) :
    Task.Keeps (· = d) (RecordStore.holds id : Task DirectoryStore Bool) fun _ => True := by
  change Task.Keeps (· = d) (DirectoryStore.holds id) fun _ => True
  unfold DirectoryStore.holds
  refine Task.Keeps.bind (Task.Keeps.ofExcept fun _ _ => trivial) fun _ _ => ?_
  exact Task.Keeps.bind Task.Keeps.get fun _ _ => Task.Keeps.pure trivial

private theorem freeIdentifier_keeps (d : DirectoryStore) (base : String) :
    Task.Keeps (· = d) (RecordStore.freeIdentifier base : Task DirectoryStore String)
      fun _ => True := by
  change Task.Keeps (· = d) (DirectoryStore.freeIdentifier base) fun _ => True
  have listed : Task.Keeps (· = d) fileNames fun _ => True := by
    unfold fileNames
    refine Task.Keeps.bind Task.Keeps.get fun s _ => ?_
    split
    · exact Task.Keeps.pure trivial
    · exact Task.Keeps.pure trivial
    · exact Task.Keeps.throw
  unfold DirectoryStore.freeIdentifier
  refine Task.Keeps.bind listed fun names _ => ?_
  exact Task.Keeps.bind Task.Keeps.get fun _ _ => Task.Keeps.pure trivial

private theorem load_keeps (d : DirectoryStore) (id : String) :
    Task.Keeps (· = d) (Profile.load id : Task DirectoryStore Profile) fun _ => True := by
  have read : Task.Keeps (· = d) (RecordStore.read id : Task DirectoryStore String)
      fun _ => True := by
    change Task.Keeps (· = d) (DirectoryStore.read id) fun _ => True
    unfold DirectoryStore.read
    refine Task.Keeps.bind (Task.Keeps.ofExcept fun _ _ => trivial) fun _ _ => ?_
    refine Task.Keeps.bind Task.Keeps.get fun s _ => ?_
    split
    · exact Task.Keeps.pure trivial
    · exact Task.Keeps.throw
  unfold Profile.load
  refine Task.Keeps.bind read fun text _ => ?_
  refine Task.Keeps.bind (Task.Keeps.ofExcept fun _ _ => trivial) fun p _ => ?_
  split
  · exact Task.Keeps.bind Task.Keeps.note fun _ _ => Task.Keeps.pure trivial
  · exact Task.Keeps.pure trivial

def onFiles (d : DirectoryStore) (files : FileSystem) : DirectoryStore :=
  { d with files }

def Loads (d : DirectoryStore) (id : String) (p : Profile) : Prop :=
  ((Profile.load id : Task DirectoryStore Profile).runOn d).answer = .ok p

private theorem exists_remove_of_isFile (valid : isValidIdentifier id = true)
    (file : d.files.isFile (d.pathOf id) = true) :
    ∃ after, d.files.removeFile (d.pathOf id) = .ok after ∧
      (Profile.remove id : Task DirectoryStore Unit).Ensures d fun answer e =>
        answer = .ok () ∧ e = d.onFiles after := by
  obtain ⟨after, removed⟩ := FileSystem.exists_removeFile_of_isFile file
  refine ⟨after, removed, ?_⟩
  unfold Profile.remove
  exact Ensures.step (runOn_remove_of_ok valid removed) (Ensures.note ⟨rfl, rfl⟩)

private theorem exists_fileNames_of_isFile (legal : IsExtension d.extension)
    (valid : isValidIdentifier id = true) (file : d.files.isFile (d.pathOf id) = true) :
    ∃ names, fileNames.runOn d = ⟨.ok names, d, []⟩ := by
  rw [pathOf_eq legal valid] at file
  rcases FileSystem.listFiles_of_isFile_entry file with ⟨names, listed⟩ | missing
  · exact ⟨names, runOn_fileNames_of_ok listed⟩
  · exact ⟨[], runOn_fileNames_of_missing missing⟩

end DirectoryStore

namespace Launcher

open Command (call? words)
open DirectoryStore (isExtension_create toList_extension_create)

/-! ### The extension -/

/-- The name that the store gives to the file of an identifier is taken for that identifier exactly
if no dot stands in front of the extension in the settings. -/
private theorem stripExtension_fileName_iff (files : FileSystem) (folder : Path)
    (settings : Settings) (id : String) :
    stripExtension settings
        (fileName id (DirectoryStore.create files folder settings.recordExtension).extension) = id ↔
      settings.recordExtension.toList.head? ≠ some '.' := by
  have kept := toList_extension_create files folder settings.recordExtension
  generalize (DirectoryStore.create files folder settings.recordExtension).extension = kind at kept
  unfold stripExtension
  cases written : settings.recordExtension.toList with
  | nil =>
    have same : settings.recordExtension = kind := by
      rw [← String.toList_inj, kept, written, List.dropWhile_nil]
    rw [same, Record.stem?_fileName]
    simp
  | cons c rest =>
    by_cases dot : c = '.'
    · -- The file name is longer than the identifier, and it is too short to be that of the
      -- identifier with the extension as it is written.
      have shorter : kind.toList.length ≤ rest.length := by
        rw [kept, written, dot, List.dropWhile_cons_of_pos (by decide)]
        exact (List.dropWhile_suffix _).length_le
      simp only [dot, List.head?_cons, ne_eq, not_true_eq_false, iff_false]
      intro same
      cases stem : Record.stem? (fileName id kind) settings.recordExtension with
      | none =>
        rw [stem, Option.getD_none] at same
        have lengths := congrArg (fun name => name.toList.length) same
        simp only [Record.toList_fileName, List.length_append, List.length_cons] at lengths
        omega
      | some other =>
        rw [stem, Option.getD_some] at same
        have names := Record.stem?_eq_some_iff.mp stem
        have lengths := congrArg (fun name => name.toList.length) names
        simp only [same, Record.toList_fileName, written, List.length_append,
          List.length_cons] at lengths
        omega
    · have same : settings.recordExtension = kind := by
        rw [← String.toList_inj, kept, written, List.dropWhile_cons_of_neg (by simpa using dot)]
      rw [same, Record.stem?_fileName]
      simpa using dot

/-! ### The commands -/

def folderRegistry (policy : OverlapPolicy) : Registry (Launcher DirectoryStore) :=
  (Registry.ofCommands policy commands).state

private theorem sound_folderRegistry (policy : OverlapPolicy) : (folderRegistry policy).Sound :=
  Registry.sound_ofCommands policy isDefined_commands

private theorem commands_folderRegistry (policy : OverlapPolicy) :
    (folderRegistry policy).commands = commands :=
  Registry.commands_ofCommands isDefined_commands (answer_ofCommands policy)

section Commands

variable {args : Arguments} {l : Launcher DirectoryStore} {typed id : String}

abbrev Untouched (d : DirectoryStore) : Launcher DirectoryStore → Prop :=
  Holds (· = d) fun _ => True

private theorem untouched_bind {α β : Type} {P : α → Prop} {x : Task (Launcher DirectoryStore) α}
    {f : α → Task (Launcher DirectoryStore) β} {d : DirectoryStore} {t : Launcher DirectoryStore}
    {Q : Except Failure β → Launcher DirectoryStore → Prop} (keeps : Task.Keeps (Untouched d) x P)
    (same : t.host.store = d) (next : ∀ a u, u.host.store = d → (f a).Ensures u Q)
    (failed : ∀ e u, u.host.store = d → Q (.error e) u) : Ensures (x >>= f) t Q := by
  refine Ensures.bind (keeps t ⟨same, trivial⟩) ?_ ?_
  · rintro a u ⟨⟨kept, -⟩, -⟩
    exact next a u kept
  · rintro e u ⟨⟨kept, -⟩, -⟩
    exact failed e u kept

private theorem runOn_isKnown_of_isFile (valid : isValidIdentifier id = true)
    (file : l.host.store.files.isFile (l.host.store.pathOf id) = true) :
    (isKnown id).runOn l = ⟨.ok true, l, []⟩ := by
  unfold isKnown
  rw [if_pos valid]
  unfold onStore onHost Host.onStore
  rw [Task.runOn_within, Task.runOn_within, DirectoryStore.runOn_holds valid, file]

private theorem attempt_load (l : Launcher DirectoryStore) (id : String) :
    (Task.attempt (onStore (Profile.load id))).Ensures l fun answer t =>
      answer = .ok ((Profile.load id : Task DirectoryStore Profile).runOn l.host.store).answer ∧
        t = l := by
  refine Ensures.attempt (onStore_ensures ⟨rfl, ?_⟩)
  have same := ((DirectoryStore.load_keeps l.host.store id) l.host.store rfl).1
  rw [same]

private theorem attempt_rename {t : Launcher DirectoryStore} (same : t.host.store = l.host.store)
    (oldId newId newName : String) :
    (Task.attempt (onStore (Profile.rename oldId newId newName))).Ensures t fun _ u =>
      u.host.store = ((Profile.rename oldId newId newName :
        Task DirectoryStore Profile).runOn l.host.store).state := by
  rw [← same]
  exact Ensures.attempt (onStore_ensures rfl)

/-- The identifier on a line stands for the profile in a file of the store. -/
structure Reaches (l : Launcher DirectoryStore) (typed id : String) : Prop where
  named : stripExtension l.settings typed = id
  legal : IsExtension l.host.store.extension
  valid : isValidIdentifier id = true
  file : l.host.store.files.isFile (l.host.store.pathOf id) = true

private theorem runOn_identifierProblem_of_free {newId : String}
    (usable : isValidIdentifier newId = true)
    (free : newId = id ∨ l.host.store.files.isFile (l.host.store.pathOf newId) = false) :
    (identifierProblem newId (some id)).runOn l = ⟨.ok none, l, []⟩ := by
  unfold identifierProblem
  rw [usable]
  by_cases own : some id = some newId
  · rw [if_pos own]
    rfl
  · have absent := free.resolve_left fun same => own (congrArg some same.symm)
    have asked : (onStore (RecordStore.holds newId)).runOn l = ⟨.ok false, l, []⟩ := by
      unfold onStore onHost Host.onStore
      rw [Task.runOn_within, Task.runOn_within, DirectoryStore.runOn_holds usable, absent]
    rw [if_neg own, if_neg (by decide), Task.runOn_bind_of_ok asked]
    rfl

private theorem exists_suggestion {names : List String}
    (listed : DirectoryStore.fileNames.runOn l.host.store = ⟨.ok names, l.host.store, []⟩)
    (name : String) :
    ∃ base, (onStore (Profile.suggestIdentifier name)).runOn l = ⟨.ok base, l, []⟩ := by
  have free := DirectoryStore.runOn_freeIdentifier listed (Profile.snakeCase (Text.trim name))
  generalize Record.allocate _ _ = base at free
  refine ⟨base, ?_⟩
  unfold onStore onHost Host.onStore Profile.suggestIdentifier
  rw [Task.runOn_within, Task.runOn_within, free]

private theorem Reaches.knows (reaches : Reaches l typed id) : Knows l typed id :=
  ⟨reaches.named, runOn_isKnown_of_isFile reaches.valid reaches.file⟩

private theorem attempt_load_of_loads {p : Profile} (loads : l.host.store.Loads id p) :
    (Task.attempt (onStore (Profile.load id))).Ensures l fun answer t =>
      answer = .ok (.ok p) ∧ t = l := by
  have loaded := attempt_load l id
  rw [loads] at loaded
  exact loaded

variable (reaches : Reaches l typed id) (given : args.text? "profile_id" = some typed)
include reaches given

private theorem removeCommand_removes (agreed : ∃ after, Confirmed args l.host.console after) :
    (removeCommand args).Ensures l fun answer t =>
      answer = .ok ((Reply.succeededWith s!"Deleted profile '{id}'!").addText "profile_id" id) ∧
        ∃ after, l.host.store.files.removeFile (l.host.store.pathOf id) = .ok after ∧
          t.host.store = l.host.store.onFiles after := by
  obtain ⟨after, removed, removes⟩ :=
    DirectoryStore.exists_remove_of_isFile reaches.valid reaches.file
  have removal : ∀ t, Talked l t → (onStore (Profile.remove id)).Ensures t fun answer u =>
      answer = .ok () ∧ u.host.store = l.host.store.onFiles after := by
    intro t talked
    rw [← talked.store] at removes ⊢
    exact onStore_ensures removes
  refine (removeCommand_of_knows reaches.knows given agreed removal).mono ?_
  rintro answer t ⟨replied, gone⟩
  exact ⟨replied, after, removed, gone⟩

private theorem renameCommand_renames_file_or :
    (renameCommand args).Ensures l fun _ t => t.host.store = l.host.store ∨
      ∃ newId newName, t.host.store =
        ((Profile.rename id newId newName : Task DirectoryStore Profile).runOn
          l.host.store).state := by
  have looks := DirectoryStore.holds_keeps l.host.store
  unfold renameCommand
  refine knows_bind reaches.knows given ?_
  refine Ensures.bind_of_answer (attempt_load l id) ?_
  rintro t rfl
  cases ((Profile.load id : Task DirectoryStore Profile).runOn t.host.store).answer with
  | error e => exact Ensures.step (w := [_]) rfl (Ensures.pure (Or.inl rfl))
  | ok old =>
    refine untouched_bind (Console.say_keeps indifferent _) rfl (fun _ t same => ?_)
      fun _ _ same => Or.inl same
    refine untouched_bind (Console.say_keeps indifferent _) same (fun _ t same => ?_)
      fun _ _ same => Or.inl same
    refine untouched_bind (chooseName_keeps args _) same (fun chosen t same => ?_)
      fun _ _ same => Or.inl same
    cases chosen with
    | none => exact Ensures.pure (Or.inl same)
    | some newName =>
      refine untouched_bind (onStore_keeps (DirectoryStore.freeIdentifier_keeps _ _)) same
        (fun suggested t same => ?_) fun _ _ same => Or.inl same
      refine untouched_bind (chooseIdentifier_keeps looks _ suggested _) same
        (fun choice t same => ?_) fun _ _ same => Or.inl same
      cases choice with
      | rejected problem => exact Ensures.pure (Or.inl same)
      | interrupted => exact Ensures.pure (Or.inl same)
      | accepted newId =>
        refine Ensures.bind (attempt_rename same id newId newName) ?_
          fun e u moved => Or.inr ⟨newId, newName, moved⟩
        intro outcome u moved
        cases outcome with
        | ok p => exact Ensures.pure (Or.inr ⟨newId, newName, moved⟩)
        | error e =>
          exact Ensures.step (w := [_]) rfl (Ensures.pure (Or.inr ⟨newId, newName, moved⟩))

private theorem renameCommand_renames_file {p : Profile} {name newId : String}
    (loads : l.host.store.Loads id p) (named : args.text? "name" = some name)
    (moved : args.text? "new_id" = some newId) (nonempty : Text.trim name ≠ "")
    (usable : isValidIdentifier (Text.trim newId) = true)
    (free : Text.trim newId = id ∨
      l.host.store.files.isFile (l.host.store.pathOf (Text.trim newId)) = false) :
    (renameCommand args).Ensures l fun _ t => t.host.store =
      ((Profile.rename id (Text.trim newId) (Text.trim name) :
        Task DirectoryStore Profile).runOn l.host.store).state := by
  obtain ⟨names, listed⟩ :=
    DirectoryStore.exists_fileNames_of_isFile reaches.legal reaches.valid reaches.file
  refine renameCommand_of_knows reaches.knows given (attempt_load_of_loads loads) named moved
    nonempty ?_ ?_ ?_
  · intro t talked
    rw [← talked.store] at listed
    exact exists_suggestion listed (Text.trim name)
  · intro t talked
    rw [← talked.store] at free
    exact runOn_identifierProblem_of_free usable free
  · intro t talked
    exact attempt_rename talked.store id _ _

omit reaches in
private theorem removeCommand_names (agreed : args.boolean? "confirm" = some true) :
    (removeCommand args).Ensures l fun answer _ => ∀ reply named, answer = .ok reply →
      reply.text? "profile_id" = some named → named = stripExtension l.settings typed := by
  have free : "profile_id" ≠ Reply.kindField := by decide
  unfold removeCommand
  refine Ensures.step (runOn_profileIdentifier given l) ?_
  refine Ensures.bind (P := fun _ _ => True) trivial ?_ fun e t _ _ _ impossible => by
    cases impossible
  rintro known t -
  cases known with
  | false =>
    refine Ensures.pure ?_
    rintro _ named ⟨⟩ told
    cases told
  | true =>
    rw [agreed]
    refine Ensures.step (w := []) rfl (Ensures.bind (P := fun _ _ => True) trivial ?_ ?_)
    · rintro _ u -
      refine Ensures.pure ?_
      rintro _ named ⟨⟩ told
      rw [Reply.text?, Reply.addText, Reply.get?_add _ free, if_pos rfl] at told
      exact (Option.some.inj told).symm
    · rintro e u - _ _ impossible
      cases impossible

end Commands

section Lines

variable (policy : OverlapPolicy) {l : Launcher DirectoryStore} {typed id : String}

/-- What follows the identifier on a line confirms a removal, or the answers to the question do. -/
def Confirms (l : Launcher DirectoryStore) (given : List String) : Prop :=
  given = ["true"] ∨ given = [] ∧ ∃ after, SaidYes l.host.console after

/-- The lines that name a profile by a text remove, play and rename the one in the file of the
identifier. -/
structure ActsOn (policy : OverlapPolicy) (l : Launcher DirectoryStore) (typed id : String) :
    Prop where
  removes : ∀ text given, Confirms l given → words text = "rm" :: typed :: given →
    let run := Action.run (Command.dispatch (folderRegistry policy) text) l
    run.answer.text? "profile_id" = some id ∧
      ∃ after, l.host.store.files.removeFile (l.host.store.pathOf id) = .ok after ∧
        run.state.host.store = l.host.store.onFiles after
  plays : ∀ text p, words text = ["run", typed] → l.host.store.Loads id p →
    (Action.run (Command.dispatch (folderRegistry policy) text) l).state =
      ((onHost (Session.play l.settings p)).runOn l).state
  renames : ∀ text given, given.length ≤ 2 → words text = "mv" :: typed :: given →
    let after := (Action.run (Command.dispatch (folderRegistry policy) text) l).state.host.store
    after = l.host.store ∨ ∃ newId newName, after =
      ((Profile.rename id newId newName : Task DirectoryStore Profile).runOn l.host.store).state
  renamesTo : ∀ text name newId p, words text = ["mv", typed, name, newId] →
    l.host.store.Loads id p → Text.trim name ≠ "" →
    isValidIdentifier (Text.trim newId) = true →
    (Text.trim newId = id ∨
      l.host.store.files.isFile (l.host.store.pathOf (Text.trim newId)) = false) →
    (Action.run (Command.dispatch (folderRegistry policy) text) l).state.host.store =
      ((Profile.rename id (Text.trim newId) (Text.trim name) :
        Task DirectoryStore Profile).runOn l.host.store).state

private theorem call_rm_of_confirms {text : String} {given : List String}
    (confirms : Confirms l given) (line : words text = "rm" :: typed :: given) :
    ∃ c args, call? (folderRegistry policy) text = some (c, args) ∧
      c.handler = .ofTask removeCommand ∧ args.text? "profile_id" = some typed ∧
      ∃ after, Confirmed args l.host.console after := by
  have sound := sound_folderRegistry policy
  have all := commands_folderRegistry policy
  rcases confirms with rfl | ⟨rfl, after, yes⟩
  · obtain ⟨c, args, called, does, named, agreed⟩ := call_rm sound all (some true) line
    exact ⟨c, args, called, does, named, l.host.console, Or.inl agreed⟩
  · obtain ⟨c, args, called, does, named, unsaid⟩ := call_rm sound all none line
    exact ⟨c, args, called, does, named, after, Or.inr ⟨unsaid, yes⟩⟩

private theorem Reaches.actsOn (reaches : Reaches l typed id) : ActsOn policy l typed id where
  removes text given confirms line := by
    obtain ⟨c, args, called, does, named, agreed⟩ := call_rm_of_confirms policy confirms line
    obtain ⟨answer, state⟩ :=
      Command.run_dispatch_of_task (sound_folderRegistry policy) called does l
    obtain ⟨replied, removed⟩ := removeCommand_removes reaches named agreed
    have free : "profile_id" ≠ Reply.kindField := by decide
    simp only
    rw [answer, state, replied]
    refine ⟨?_, removed⟩
    simp only [Reply.text?, Reply.addText, Reply.get?_add _ free, if_true]
    rfl
  plays text p line loads := by
    obtain ⟨c, args, called, does, named⟩ :=
      call_run (sound_folderRegistry policy) (commands_folderRegistry policy) line
    rw [(Command.run_dispatch_of_task (sound_folderRegistry policy) called does l).2]
    exact runCommand_of_knows reaches.knows named (attempt_load_of_loads loads)
  renames text given few line := by
    obtain ⟨c, args, called, does, named, -⟩ :=
      call_mv (sound_folderRegistry policy) (commands_folderRegistry policy) few line
    simp only
    rw [(Command.run_dispatch_of_task (sound_folderRegistry policy) called does l).2]
    exact renameCommand_renames_file_or reaches named
  renamesTo text name newId p line loads nonempty usable free := by
    obtain ⟨c, args, called, does, named, others⟩ :=
      call_mv (sound_folderRegistry policy) (commands_folderRegistry policy) (by simp) line
    obtain ⟨renamed, moved⟩ := others name newId rfl
    rw [(Command.run_dispatch_of_task (sound_folderRegistry policy) called does l).2]
    exact renameCommand_renames_file reaches named loads renamed moved nonempty usable free

private theorem ActsOn.named {policy : OverlapPolicy} (acts : ActsOn policy l typed id) :
    stripExtension l.settings typed = id := by
  -- The reply to a removal tells which identifier the text is taken for.
  have line := Command.words_lineOf ["rm", typed, "true"]
  obtain ⟨told, -⟩ := acts.removes _ ["true"] (Or.inl rfl) line
  obtain ⟨c, args, called, does, named, agreed⟩ := call_rm (sound_folderRegistry policy)
    (commands_folderRegistry policy) (some true) line
  have names := removeCommand_names (l := l) named agreed
  unfold Ensures at names
  rw [(Command.run_dispatch_of_task (sound_folderRegistry policy) called does l).1] at told
  cases replied : ((removeCommand args).runOn l).answer with
  | ok reply =>
    rw [replied] at told names
    exact (names reply id rfl told).symm
  | error e =>
    rw [replied] at told
    cases told

end Lines

/-- The text that the store names the file of a profile by is taken for the identifier of the
profile exactly if no dot stands in front of the extension in the settings. Exactly then the lines
that name a profile by its file act on that profile. -/
theorem fileName_acts_on_profile_iff (folder : Path) {settings : Settings}
    (legal : IsExtension settings.recordExtension) (m : Machine) {id : String}
    (valid : isValidIdentifier id = true) :
    let l := Program.launcher folder settings m
    let typed := fileName id l.host.store.extension
    l.host.store.pathOf id = folder.entry typed ∧
      (stripExtension settings typed = id ↔ settings.recordExtension.toList.head? ≠ some '.') ∧
      (l.host.store.files.isFile (l.host.store.pathOf id) = true → ∀ policy,
        (ActsOn policy l typed id ↔ settings.recordExtension.toList.head? ≠ some '.')) := by
  intro l typed
  have own : IsExtension l.host.store.extension := isExtension_create m.files folder legal
  have named : stripExtension settings typed = id ↔
      settings.recordExtension.toList.head? ≠ some '.' :=
    stripExtension_fileName_iff m.files folder settings id
  refine ⟨DirectoryStore.pathOf_eq own valid, named, ?_⟩
  intro file policy
  rw [← named]
  constructor
  · exact ActsOn.named
  · intro taken
    exact Reaches.actsOn policy ⟨taken, own, valid, file⟩

def oneProfile : Machine :=
  ⟨⟨.folder [("saves", .folder [("hero.json", .file (Profile.new "hero" "Hero").toText.toUTF8)])],
    []⟩, .ofInput [], .regular 1700000000000 0⟩

theorem fileName_acts_on_profile_iff_oneProfile :
    let l := Program.launcher (.ofText "saves") .standard oneProfile
    IsExtension Settings.standard.recordExtension ∧ isValidIdentifier "hero" = true ∧
      l.host.store.files.isFile (l.host.store.pathOf "hero") = true ∧
      ActsOn .reject l "hero.json" "hero" := by
  intro l
  have legal : IsExtension Settings.standard.recordExtension :=
    ⟨by decide +kernel, by decide +kernel⟩
  have valid : isValidIdentifier "hero" = true := by decide +kernel
  have file : l.host.store.files.isFile (l.host.store.pathOf "hero") = true := by decide +kernel
  have typed : fileName "hero" l.host.store.extension = "hero.json" := by decide +kernel
  obtain ⟨-, -, acts⟩ := fileName_acts_on_profile_iff (.ofText "saves") legal oneProfile valid
  refine ⟨legal, valid, file, ?_⟩
  rw [← typed]
  exact (acts file .reject).mpr (by decide +kernel)

/-- With a dot in front of the extension in the settings, the line that names the file of a profile
finds no profile, and the file stays. -/
theorem rm_with_dotted_extension :
    let settings := { Settings.standard with recordExtension := ".json" }
    let l := Program.launcher (.ofText "saves") settings oneProfile
    let line := "rm \"hero.json\" true"
    let run := Action.run (Command.dispatch (folderRegistry .reject) line) l
    isValidIdentifier "hero" = true ∧ fileName "hero" l.host.store.extension = "hero.json" ∧
      l.host.store.files.isFile (l.host.store.pathOf "hero") = true ∧
      words line = ["rm", "hero.json", "true"] ∧
      stripExtension settings "hero.json" = "hero.json" ∧
      run.answer = .failedWith "Failed to remove: profile not found: hero.json." ∧
      run.state.host.store.files.isFile (l.host.store.pathOf "hero") = true := by
  decide +kernel

end Launcher

end ProfileShell
