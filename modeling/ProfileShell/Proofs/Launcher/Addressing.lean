import ProfileShell.Proofs.Launcher.Calls
import ProfileShell.Proofs.Launcher.Effects
import ProfileShell.Proofs.Profile.Record

/-!
Which profile an identifier addresses on the lines of the launcher.

A line names a profile by an identifier from which a record extension is taken off. An identifier
that does not end in the extension addresses its own profile. One that does addresses the profile of
the shorter identifier, whether or not it has a profile of its own.
-/

set_option autoImplicit false
set_option relaxedAutoImplicit false

namespace ProfileShell

open ProfileShell.Task (Ensures)

namespace Profile

variable {s : MemoryStore} {id : String}

def Reported (s : MemoryStore) (id : String) : Prop :=
  ∃ summaries, ((list : Task MemoryStore (List ProfileSummary)).runOn s).answer = .ok summaries ∧
    id ∈ summaries.map ProfileSummary.id

private theorem Stores.contains {p : Profile} (stores : Stores s id p) :
    s.records.contains id = true := by
  obtain ⟨text, q, found, -, -⟩ := stores
  exact (TextMap.contains_iff _ _).mpr ⟨text, found⟩

private theorem Stores.load_ensures {p : Profile} (stores : Stores s id p) :
    (load id : Task MemoryStore Profile).Ensures s fun answer t => answer = .ok p ∧ t = s := by
  refine (load_ensures_of_browsable s.browsable id).mono ?_
  intro answer t ended
  exact ⟨ended.2.trans (loaded_eq_ok_iff_stores.mpr stores), ended.1⟩

private theorem reported_iff : Reported s id ↔ ∃ p, Stores s id p := by
  obtain ⟨-, answered⟩ := list_ensures_summaries s
  have members : id ∈ (s.records.keys.filterMap (summary? s)).map ProfileSummary.id ↔
      id ∈ s.records.keys ∧ ∃ p, Stores s id p := by
    rw [map_id_filterMap_summary?, List.mem_filter, summary?]
    simp only [← loaded_eq_ok_iff_stores]
    cases loaded s id <;> simp [Except.toOption]
  constructor
  · rintro ⟨others, listed, member⟩
    cases answered.symm.trans listed
    exact (members.mp member).2
  · rintro ⟨p, stores⟩
    refine ⟨_, answered, members.mpr ⟨?_, p, stores⟩⟩
    obtain ⟨text, q, found, -, -⟩ := stores
    exact TextMap.mem_keys_of_get? found

private theorem reported_of_new (other name : String)
    (found : s.records.get? id = some (new other name).toText) : Reported s id :=
  reported_iff.mpr ⟨_, _, _, found, ofText_toText (writable_new other name), rfl⟩

private theorem Stores.rename_ensures {p : Profile} (stores : Stores s id p) {newId : String}
    (valid : Record.isValidIdentifier newId = true)
    (free : newId = id ∨ s.records.get? newId = none) (newName : String) :
    (rename id newId newName : Task MemoryStore Profile).Ensures s fun answer t =>
      (∃ q, answer = .ok q) ∧
        t = ⟨moved s.records id { p with id := newId, name := newName }⟩ := by
  unfold rename
  rw [Record.checkIdentifier_of_valid valid]
  refine Ensures.step (w := []) rfl (Ensures.bind stores.load_ensures ?_ ?_)
  · rintro _ t ⟨⟨⟩, rfl⟩
    by_cases same : newId = id
    · simp only [same, ne_eq, not_true_eq_false, if_false]
      refine Ensures.step (MemoryStore.runOn_write_of_valid (same ▸ valid) _) ⟨⟨_, rfl⟩, ?_⟩
      simp only [moved, if_true]
      rfl
    · have absent : t.records.contains newId = false := by
        simp [TextMap.contains, free.resolve_left same]
      have kept : (t.records.insert newId
          { p with id := newId, name := newName }.toText).contains id = true := by
        obtain ⟨text, found⟩ := (TextMap.contains_iff _ _).mp stores.contains
        rw [TextMap.contains_iff]
        exact ⟨text, by rw [TextMap.get?_insert, if_neg (Ne.symm same), found]⟩
      simp only [ne_eq, same, not_false_eq_true, if_true]
      refine Ensures.step (MemoryStore.runOn_holds t newId) ?_
      rw [absent, if_neg Bool.false_ne_true]
      refine Ensures.step (MemoryStore.runOn_write_of_valid valid _)
        (Ensures.step (MemoryStore.runOn_remove_of_contains kept) ⟨⟨_, rfl⟩, ?_⟩)
      simp only [moved, same, if_false]
      rfl
  · rintro e t ⟨impossible, -⟩
    cases impossible

end Profile

namespace Launcher

open Command (call? words normalize)

private theorem stripExtension_eq_self_iff (settings : Settings) (id : String) :
    stripExtension settings id = id ↔
      ¬('.' :: settings.recordExtension.toList) <:+ id.toList := by
  unfold stripExtension Record.stem? Record.dropEnding?
  by_cases ends : ('.' :: settings.recordExtension.toList) <:+ id.toList
  · have shorter : String.ofList (id.toList.take
        (id.toList.length - ('.' :: settings.recordExtension.toList).length)) ≠ id := by
      intro same
      have lengths := congrArg (fun other => other.toList.length) same
      have some : 0 < id.toList.length :=
        Nat.lt_of_lt_of_le (Nat.succ_pos _) ends.length_le
      simp only [String.toList_ofList, List.length_take, List.length_cons] at lengths
      omega
    rw [if_pos (List.isSuffixOf_iff_suffix.mpr ends)]
    simpa [ends] using shorter
  · rw [if_neg (mt List.isSuffixOf_iff_suffix.mp ends)]
    simp [ends]

section Commands

variable {args : Arguments} {l : Launcher MemoryStore}

private theorem removeCommand_confirmed {input : String}
    (given : args.text? "profile_id" = some input) (agreed : args.boolean? "confirm" = some true) :
    (removeCommand args).Ensures l fun _ t => t.records =
      if Record.isValidIdentifier (stripExtension l.settings input) &&
        l.records.contains (stripExtension l.settings input)
      then l.records.erase (stripExtension l.settings input) else l.records := by
  unfold removeCommand
  refine Ensures.step (runOn_profileIdentifier given l) (Ensures.step (runOn_isKnown l _) ?_)
  generalize stripExtension l.settings input = id
  cases known : Record.isValidIdentifier id && l.records.contains id with
  | false => exact Ensures.pure rfl
  | true =>
    have present : l.host.store.records.contains id = true := (Bool.and_eq_true_iff.mp known).2
    have removed : (onStore (Profile.remove id)).Ensures l fun answer t =>
        answer = .ok () ∧ t.records = l.records.erase id := by
      refine onStore_ensures ?_
      unfold Profile.remove
      exact Ensures.step (MemoryStore.runOn_remove_of_contains present) ⟨rfl, rfl⟩
    simp only [agreed]
    refine Ensures.step (w := []) rfl (Ensures.bind_of_answer removed fun t erased => ?_)
    exact Ensures.pure erased

variable {id : String} {p : Profile}

private theorem load_stored (stores : Profile.Stores l.host.store id p) :
    (Task.attempt (onStore (Profile.load id))).Ensures l fun answer t =>
      answer = .ok (.ok p) ∧ t = l := by
  refine Ensures.attempt (onStore_ensures (stores.load_ensures.mono ?_))
  rintro _ _ ⟨rfl, rfl⟩
  exact ⟨rfl, rfl⟩

private theorem knows_stored (own : stripExtension l.settings id = id)
    (valid : Record.isValidIdentifier id = true) (stores : Profile.Stores l.host.store id p) :
    Knows l id id where
  named := own
  known := by
    have present : l.records.contains id = true := stores.contains
    rw [runOn_isKnown, valid, present]
    rfl

private theorem runCommand_plays (given : args.text? "profile_id" = some id)
    (own : stripExtension l.settings id = id) (valid : Record.isValidIdentifier id = true)
    (stores : Profile.Stores l.host.store id p) :
    (runCommand args).Ensures l fun _ t =>
      t = ((onHost (Session.play l.settings p)).runOn l).state :=
  runCommand_of_knows (knows_stored own valid stores) given (load_stored stores)

private theorem rename_stored {t : Launcher MemoryStore} (talked : Talked l t)
    (stores : Profile.Stores l.host.store id p) {newId newName : String}
    (available : Available l.records (some id) newId) (nonempty : newName ≠ "")
    (trimmed : Text.trim newName = newName) :
    (Task.attempt (onStore (Profile.rename id newId newName))).Ensures t fun answer u =>
      (∃ q, answer = .ok (.ok q)) ∧ ∃ q, Renamed l.records u.records id newId newName q := by
  have free : newId = id ∨ l.host.store.records.get? newId = none :=
    available.2.imp (fun own => (Option.some.inj own).symm) fun absent => absent
  have renamed := stores.rename_ensures available.1 free newName
  rw [← talked.store] at renamed
  refine Ensures.attempt (onStore_ensures (renamed.mono ?_))
  rintro _ s ⟨⟨q, rfl⟩, rfl⟩
  refine ⟨⟨q, rfl⟩, ?_⟩
  obtain ⟨text, q, found, content, rfl⟩ := stores
  refine ⟨q, ⟨text, found, content⟩, available.1, free, nonempty, trimmed, ?_⟩
  intro key
  rw [← talked.records]
  exact Profile.get?_moved t.host.store.records id _ key

private theorem renameCommand_renames {name newId : String}
    (given : args.text? "profile_id" = some id)
    (named : args.text? "name" = some name) (moved : args.text? "new_id" = some newId)
    (own : stripExtension l.settings id = id) (valid : Record.isValidIdentifier id = true)
    (stores : Profile.Stores l.host.store id p) (nonempty : Text.trim name ≠ "")
    (available : Available l.records (some id) (Text.trim newId)) :
    (renameCommand args).Ensures l fun _ t =>
      ∃ q, Renamed l.records t.records id (Text.trim newId) (Text.trim name) q := by
  refine renameCommand_of_knows (knows_stored own valid stores) given (load_stored stores)
    named moved nonempty ?_ ?_ ?_
  · intro t _
    exact ⟨_, runOn_suggestIdentifier t (Text.trim name)⟩
  · intro t talked
    have chosen : Available t.records (some id) (Text.trim newId) := by
      rw [talked.records]
      exact available
    rw [runOn_identifierProblem, (problemWith_eq_none_iff _ _ _).mpr chosen]
  · intro t talked
    have renamed := rename_stored talked stores available nonempty (Text.trim_trim name)
    exact renamed.mono fun _ _ ends => ends.2

end Commands

section Lines

variable (policy : OverlapPolicy) {l : Launcher MemoryStore} {id : String} {p : Profile}

/-- The lines that name the identifier remove, play and rename the profile that is stored under it,
and no other. -/
structure Addresses (policy : OverlapPolicy) (l : Launcher MemoryStore) (id : String) : Prop where
  removes : ∀ text, words text = ["rm", id, "true"] →
    (Action.run (Command.dispatch (registry policy) text) l).state.records = l.records.erase id
  plays : ∀ text, words text = ["run", id] →
    let run := Action.run (Command.dispatch (registry policy) text) l
    (∃ p, Profile.Stores l.host.store id p ∧
        run.state = ((onHost (Session.play l.settings p)).runOn l).state) ∧
      ∀ key, key ≠ id → run.state.records.get? key = l.records.get? key
  renames : ∀ text given, given.length ≤ 2 → words text = "mv" :: id :: given →
    let run := Action.run (Command.dispatch (registry policy) text) l
    if run.answer.kind = "success" then
      ∃ newId newName p, Renamed l.records run.state.records id newId newName p
    else run.state.records = l.records
  renamesTo : ∀ text name newId, words text = ["mv", id, name, newId] → Text.trim name ≠ "" →
    Available l.records (some id) (Text.trim newId) →
    ∃ p, Renamed l.records
      (Action.run (Command.dispatch (registry policy) text) l).state.records
      id (Text.trim newId) (Text.trim name) p

private theorem state_dispatch_rm {text : String} (line : words text = ["rm", id, "true"]) :
    let named := stripExtension l.settings id
    (Action.run (Command.dispatch (registry policy) text) l).state.records =
      if Record.isValidIdentifier named && l.records.contains named
      then l.records.erase named else l.records := by
  obtain ⟨c, args, called, does, given, agreed⟩ :=
    call_rm (sound_registry policy) (commands_registry policy) (some true) line
  rw [state_dispatch_of_task called does]
  exact removeCommand_confirmed given agreed

private theorem Names.own {args : Arguments} (given : args.text? "profile_id" = some id)
    (own : stripExtension l.settings id = id) {named : String}
    (names : Names l.settings args named) : named = id := by
  obtain ⟨input, found, rfl⟩ := names
  rw [given] at found
  cases found
  exact own

private theorem state_dispatch_run {text : String} (line : words text = ["run", id])
    (own : stripExtension l.settings id = id) (valid : Record.isValidIdentifier id = true)
    (stores : Profile.Stores l.host.store id p) :
    let run := Action.run (Command.dispatch (registry policy) text) l
    run.state = ((onHost (Session.play l.settings p)).runOn l).state ∧
      ∀ key, key ≠ id → run.state.records.get? key = l.records.get? key := by
  obtain ⟨c, args, called, does, given⟩ :=
    call_run (sound_registry policy) (commands_registry policy) line
  intro run
  simp only [run]
  rw [state_dispatch_of_task called does]
  refine ⟨runCommand_plays given own valid stores, ?_⟩
  rcases runCommand_ensures args l with same | ⟨named, names, others⟩
  · intro key _
    rw [same]
  · rw [names.own given own] at others
    exact others

private theorem addresses_of_own (own : stripExtension l.settings id = id)
    (valid : Record.isValidIdentifier id = true) (stores : Profile.Stores l.host.store id p) :
    Addresses policy l id where
  removes text line := by
    have present : l.records.contains id = true := stores.contains
    rw [state_dispatch_rm policy line, own, valid, present]
    rfl
  plays text line := by
    obtain ⟨played, others⟩ := state_dispatch_run policy line own valid stores
    exact ⟨⟨p, stores, played⟩, others⟩
  renames text given few line := by
    obtain ⟨c, args, called, does, named, -⟩ :=
      call_mv (sound_registry policy) (commands_registry policy) few line
    have ends := run_dispatch_of_task called does l (renameCommand_ensures args l)
    intro run
    split
    · rename_i succeeded
      obtain ⟨oldId, newId, newName, q, names, renamed⟩ := (if_pos succeeded).mp ends
      rw [names.own named own] at renamed
      exact ⟨newId, newName, q, renamed⟩
    · rename_i failed
      exact (if_neg failed).mp ends
  renamesTo text name newId line nonempty available := by
    obtain ⟨c, args, called, does, given, others⟩ :=
      call_mv (sound_registry policy) (commands_registry policy) (by simp) line
    obtain ⟨named, moved⟩ := others name newId rfl
    rw [state_dispatch_of_task called does]
    exact renameCommand_renames given named moved own valid stores nonempty available

private theorem Addresses.own {policy : OverlapPolicy} (addresses : Addresses policy l id)
    (stores : Profile.Stores l.host.store id p) :
    Record.isValidIdentifier id = true ∧ stripExtension l.settings id = id := by
  obtain ⟨text, q, found, -, -⟩ := stores
  have found : l.records.get? id = some text := found
  -- The removal alone tells: under any other identifier it leaves the record that was named.
  have removed := addresses.removes _ (Command.words_lineOf ["rm", id, "true"])
  rw [state_dispatch_rm policy (Command.words_lineOf _)] at removed
  have gone : (l.records.erase id).get? id = none := by
    rw [TextMap.get?_erase, if_pos rfl]
  rw [← removed] at gone
  split at gone
  · rename_i known
    have own : id = stripExtension l.settings id := by
      by_contra other
      rw [TextMap.get?_erase, if_neg other, found] at gone
      cases gone
    rw [← own] at known
    exact ⟨(Bool.and_eq_true_iff.mp known).1, own.symm⟩
  · rw [found] at gone
    cases gone

/-- Of the identifiers that a listing names, those address their own profiles that are valid and do
not end in the record extension. A store takes no record under an invalid identifier. -/
theorem addresses_iff (reported : Profile.Reported l.host.store id) :
    Addresses policy l id ↔ Record.isValidIdentifier id = true ∧
      ¬('.' :: l.settings.recordExtension.toList) <:+ id.toList := by
  obtain ⟨p, stores⟩ := Profile.reported_iff.mp reported
  rw [← stripExtension_eq_self_iff]
  constructor
  · intro addresses
    exact addresses.own stores
  · rintro ⟨valid, own⟩
    exact addresses_of_own policy own valid stores

end Lines

/-- A launcher over two profiles. The identifier of the second is that of the first with the record
extension at its end. -/
def twoProfiles : Launcher MemoryStore :=
  ⟨⟨⟨(TextMap.empty.insert "a" (Profile.new "a" "A").toText).insert "a.json"
        (Profile.new "a.json" "B").toText⟩, .ofInput [], .regular 1700000000000 0⟩, .standard⟩

theorem addresses_iff_twoProfiles :
    Profile.Reported twoProfiles.host.store "a" ∧ Addresses .reject twoProfiles "a" := by
  have reported : Profile.Reported twoProfiles.host.store "a" :=
    Profile.reported_of_new "a" "A" (by decide +kernel)
  refine ⟨reported, (addresses_iff .reject reported).mpr ?_⟩
  decide +kernel

/-- The line that names the second profile removes the first. -/
theorem rm_twoProfiles :
    let line := "rm \"a.json\" true"
    Profile.Reported twoProfiles.host.store "a.json" ∧
      Record.isValidIdentifier "a.json" = true ∧ words line = ["rm", "a.json", "true"] ∧
      (Action.run (Command.dispatch (registry .reject) line) twoProfiles).state.records.keys =
        ["a.json"] ∧
      (twoProfiles.records.erase "a.json").keys = ["a"] := by
  refine ⟨Profile.reported_of_new "a.json" "B" (by decide +kernel), ?_⟩
  decide +kernel

end Launcher

end ProfileShell
