import ProfileShell.Proofs.FileSystem.Elsewhere
import ProfileShell.Proofs.Settings.File

/-!
Settings that have been initialised are settled.

Where the file of the folder tells settings, they hold and everything is left as it is. Otherwise,
whatever lies under the name of the file, the standard settings are written, and they hold if the
system lets them be written. Then they are loaded, and to initialise once more finds them. No other
file changes.
-/

set_option autoImplicit false
set_option relaxedAutoImplicit false

namespace ProfileShell.SettingsFolder

variable {d : SettingsFolder} {s : Settings}

def Tells (d : SettingsFolder) (s : Settings) : Prop :=
  ∃ text, d.files.readText d.path = .ok text ∧ Settings.ofText text = .ok s

private theorem runOn_load_of_tells (tells : d.Tells s) : load.runOn d = ⟨.ok (some s), d, []⟩ := by
  obtain ⟨text, read, told⟩ := tells
  exact runOn_load_of_text read told

private theorem runOn_load_cases (d : SettingsFolder) :
    (∃ s, d.Tells s) ∨
      ∃ outcome, load.runOn d = ⟨outcome, d, []⟩ ∧ ∀ s, outcome ≠ .ok (some s) := by
  cases file : d.files.isFile d.path with
  | false =>
    refine Or.inr ⟨.ok none, ?_, fun s impossible => by cases impossible⟩
    rw [load, Task.runOn_get_bind]
    simp only [file, Bool.false_eq_true, if_false]
    rfl
  | true =>
    cases read : d.files.readText d.path with
    | error fault =>
      refine Or.inr ⟨.error (.system fault), ?_, fun s impossible => by cases impossible⟩
      rw [load, Task.runOn_get_bind]
      simp only [file, if_true, read]
      rfl
    | ok text =>
      cases told : Settings.ofText text with
      | ok s => exact Or.inl ⟨s, text, read, told⟩
      | error e =>
        refine Or.inr ⟨.error e, ?_, fun s impossible => by cases impossible⟩
        rw [load, Task.runOn_get_bind]
        simp only [file, if_true, read, told]
        rfl

private theorem runOn_attempt_load {outcome : Except Failure (Option Settings)}
    (loaded : load.runOn d = ⟨outcome, d, []⟩) :
    (Task.attempt load).runOn d = ⟨.ok outcome, d, []⟩ := by
  have attempted : (Task.attempt load).runOn d =
      ⟨.ok (load.runOn d).answer, (load.runOn d).state, (load.runOn d).log ++ []⟩ := rfl
  rw [attempted, loaded]
  rfl

private theorem runOn_reset (d : SettingsFolder) :
    reset.runOn d = ⟨((save .standard).runOn d).answer.map fun _ => .standard,
      ((save .standard).runOn d).state, ((save .standard).runOn d).log⟩ := by
  have mapped : reset = (fun _ => Settings.standard) <$> save .standard := rfl
  rw [mapped, Task.runOn_map]

private theorem runOn_loadOrReset_of_loaded (loaded : load.runOn d = ⟨.ok (some s), d, []⟩) :
    loadOrReset.runOn d = ⟨.ok s, d, []⟩ := by
  rw [loadOrReset, Task.runOn_bind_of_ok (runOn_attempt_load loaded)]
  rfl

private theorem runOn_loadOrReset_of_unloaded {outcome : Except Failure (Option Settings)}
    (loaded : load.runOn d = ⟨outcome, d, []⟩) (unloaded : ∀ s, outcome ≠ .ok (some s)) :
    ∃ warning, loadOrReset.runOn d =
      ⟨(reset.runOn d).answer, (reset.runOn d).state, warning :: (reset.runOn d).log⟩ := by
  have attempted := runOn_attempt_load loaded
  cases outcome with
  | error e =>
    apply Exists.intro
    rw [loadOrReset, Task.runOn_bind_of_ok attempted]
    rfl
  | ok found =>
    cases found with
    | some s => exact absurd rfl (unloaded s)
    | none =>
      apply Exists.intro
      rw [loadOrReset, Task.runOn_bind_of_ok attempted]
      rfl

/-- How an initialisation ends: the file tells settings, or the standard ones are written, or the
system refuses to write them. -/
inductive Initialises (d : SettingsFolder) : Prop
  | found {s : Settings} (tells : d.Tells s) (ran : loadOrReset.runOn d = ⟨.ok s, d, []⟩)
  | wrote {files : FileSystem} {warning : LogRecord} (silent : ∀ s, ¬d.Tells s)
      (written : d.files.writeFile d.path Settings.standard.toText.toUTF8 = .ok files)
      (ran : loadOrReset.runOn d = ⟨.ok .standard, { d with files }, [warning]⟩)
  | refused {fault : SystemFault} {warning : LogRecord} (silent : ∀ s, ¬d.Tells s)
      (unwritten : d.files.writeFile d.path Settings.standard.toText.toUTF8 = .error fault)
      (ran : loadOrReset.runOn d = ⟨.error (.system fault), d, [warning]⟩)

private theorem initialises (d : SettingsFolder) : Initialises d := by
  rcases runOn_load_cases d with ⟨s, tells⟩ | ⟨outcome, loaded, unloaded⟩
  · exact .found tells (runOn_loadOrReset_of_loaded (runOn_load_of_tells tells))
  · have silent : ∀ s, ¬d.Tells s := by
      intro s tells
      rw [runOn_load_of_tells tells] at loaded
      cases loaded
      exact unloaded s rfl
    obtain ⟨warning, ran⟩ := runOn_loadOrReset_of_unloaded loaded unloaded
    rw [runOn_reset] at ran
    cases written : d.files.writeFile d.path Settings.standard.toText.toUTF8 with
    | ok files =>
      rw [runOn_save_of_ok written] at ran
      exact .wrote silent written ran
    | error fault =>
      rw [runOn_save_of_error written] at ran
      exact .refused silent written ran

private theorem settled_of_ok {after : SettingsFolder} {log : List LogRecord}
    (initialised : loadOrReset.runOn d = ⟨.ok s, after, log⟩) :
    load.runOn after = ⟨.ok (some s), after, []⟩ ∧
      loadOrReset.runOn after = ⟨.ok s, after, []⟩ := by
  have loaded : load.runOn after = ⟨.ok (some s), after, []⟩ := by
    cases initialises d with
    | found tells ran =>
      cases ran.symm.trans initialised
      exact runOn_load_of_tells tells
    | wrote silent written ran =>
      cases ran.symm.trans initialised
      exact runOn_load_of_save (runOn_save_of_ok written)
    | refused silent unwritten ran => cases ran.symm.trans initialised
  exact ⟨loaded, runOn_loadOrReset_of_loaded loaded⟩

private theorem eq_standard_of_silent (silent : ∀ s, ¬d.Tells s) {after : SettingsFolder}
    {log : List LogRecord} (initialised : loadOrReset.runOn d = ⟨.ok s, after, log⟩) :
    s = .standard := by
  cases initialises d with
  | found tells ran => exact absurd tells (silent _)
  | wrote silent written ran =>
    cases ran.symm.trans initialised
    rfl
  | refused silent unwritten ran => cases ran.symm.trans initialised

private theorem eq_of_runOn_loadOrReset_error {after : SettingsFolder} {e : Failure}
    {log : List LogRecord} (failed : loadOrReset.runOn d = ⟨.error e, after, log⟩) : after = d := by
  cases initialises d with
  | found tells ran => cases ran.symm.trans failed
  | wrote silent written ran => cases ran.symm.trans failed
  | refused silent unwritten ran =>
    cases ran.symm.trans failed
    rfl

private theorem sameBut_of_loadOrReset (d : SettingsFolder) :
    (loadOrReset.runOn d).state.folder = d.folder ∧
      FileSystem.SameBut d.path d.files (loadOrReset.runOn d).state.files := by
  cases initialises d with
  | found tells ran =>
    rw [ran]
    exact ⟨rfl, .refl _ _⟩
  | wrote silent written ran =>
    rw [ran]
    exact ⟨rfl, FileSystem.sameBut_of_writeFile written⟩
  | refused silent unwritten ran =>
    rw [ran]
    exact ⟨rfl, .refl _ _⟩

section Room

/-! In a folder with room for the file the system refuses only to replace a folder by it. -/

variable {place : Place} {entries : List (String × FileTree)}
variable (shows : d.files.Shows d.folder place entries) (fits : FileSystem.Fits d.folder fileName)
include shows fits

private theorem exists_initialised_of_free
    (free : ∀ others, entries.lookup fileName ≠ some (.folder others)) :
    ∃ s after log, loadOrReset.runOn d = ⟨.ok s, after, log⟩ := by
  obtain ⟨files, written, -⟩ := (shows.writeFile_entry isEntryName_fileName (by decide) free
    Settings.standard.toText.toUTF8).1 fits
  rw [← path_eq] at written
  cases initialises d with
  | found tells ran => exact ⟨_, _, _, ran⟩
  | wrote silent written ran => exact ⟨_, _, _, ran⟩
  | refused silent unwritten ran => cases written.symm.trans unwritten

private theorem runOn_loadOrReset_of_folder {others : List (String × FileTree)}
    (blocked : entries.lookup fileName = some (.folder others)) :
    ∃ warning, loadOrReset.runOn d = ⟨.error (.system .isDirectory), d, [warning]⟩ := by
  obtain ⟨spot, found, -, there⟩ := (shows.find_entry isEntryName_fileName (by decide)).1 fits
  rw [blocked] at there
  have refused : ∀ content, d.files.writeFile d.path content = .error .isDirectory := by
    intro content
    rw [path_eq, FileSystem.writeFile, FileSystem.findForFile_entry isEntryName_fileName, found]
    simp only [bind, Except.bind, there]
  cases initialises d with
  | found tells ran =>
    obtain ⟨text, read, -⟩ := tells
    rw [path_eq, FileSystem.readText, found] at read
    simp [bind, Except.bind, there] at read
  | wrote silent written ran => cases (refused _).symm.trans written
  | refused silent unwritten ran =>
    cases (refused _).symm.trans unwritten
    exact ⟨_, ran⟩

end Room

/-- Once the settings of a folder have been initialised, they are loaded from it, and to initialise
them again finds the same, leaves everything as it is and notes nothing in the log. What a readable
file tells is kept, and otherwise the standard settings hold; a failure changes nothing, and no
other file is ever touched. In a folder with room for the file only a folder of that name makes an
initialisation fail. -/
theorem initialisation_settles (d : SettingsFolder) :
    (∀ s after log, loadOrReset.runOn d = ⟨.ok s, after, log⟩ →
        load.runOn after = ⟨.ok (some s), after, []⟩ ∧
          loadOrReset.runOn after = ⟨.ok s, after, []⟩) ∧
      (∀ s, d.Tells s → loadOrReset.runOn d = ⟨.ok s, d, []⟩) ∧
      ((∀ s, ¬d.Tells s) →
        ∀ s after log, loadOrReset.runOn d = ⟨.ok s, after, log⟩ → s = .standard) ∧
      (∀ e after log, loadOrReset.runOn d = ⟨.error e, after, log⟩ → after = d) ∧
      ((loadOrReset.runOn d).state.folder = d.folder ∧
        FileSystem.SameBut d.path d.files (loadOrReset.runOn d).state.files) ∧
      ∀ place entries, d.files.Shows d.folder place entries → FileSystem.Fits d.folder fileName →
        ((∃ s after log, loadOrReset.runOn d = ⟨.ok s, after, log⟩) ↔
          ∀ others, entries.lookup fileName ≠ some (.folder others)) := by
  refine ⟨?_, ?_, ?_, ?_, sameBut_of_loadOrReset d, ?_⟩
  · intro s after log initialised
    exact settled_of_ok initialised
  · intro s tells
    exact runOn_loadOrReset_of_loaded (runOn_load_of_tells tells)
  · intro silent s after log initialised
    exact eq_standard_of_silent silent initialised
  · intro e after log failed
    exact eq_of_runOn_loadOrReset_error failed
  · intro place entries shows fits
    constructor
    · intro initialised others blocked
      obtain ⟨s, after, log, ran⟩ := initialised
      obtain ⟨warning, failed⟩ := runOn_loadOrReset_of_folder shows fits blocked
      cases ran.symm.trans failed
    · exact exists_initialised_of_free shows fits

/-- A file that is no text is replaced by the standard settings, and a note beside it is kept. -/
theorem initialisation_settles_notUtf8 :
    let home : SettingsFolder :=
      ⟨⟨.folder [("home", .folder [("settings.toml", .file ⟨#[0xff]⟩),
        ("notes.txt", .file "n".toUTF8)])], []⟩, .ofText "home"⟩
    ∃ after log, loadOrReset.runOn home = ⟨.ok .standard, after, log⟩ ∧
      load.runOn after = ⟨.ok (some .standard), after, []⟩ ∧
      after.files.root.glimpse ["home", "notes.txt"] = .file "n".toUTF8 := by
  intro home
  obtain ⟨settles, -, resets, -, ⟨-, same⟩, answers⟩ := initialisation_settles home
  have shows : home.files.Shows home.folder ["home"]
      [("settings.toml", .file ⟨#[0xff]⟩), ("notes.txt", .file "n".toUTF8)] :=
    ⟨by decide, rfl, rfl⟩
  have silent : ∀ s, ¬home.Tells s := by
    intro s tells
    obtain ⟨text, read, -⟩ := tells
    have unreadable : home.files.readText home.path = .error .notUtf8 := by decide +kernel
    cases read.symm.trans unreadable
  have single : ∀ others, List.lookup fileName
      [("settings.toml", FileTree.file ⟨#[0xff]⟩), ("notes.txt", .file "n".toUTF8)] ≠
        some (.folder others) := by
    intro others blocked
    cases blocked
  obtain ⟨s, after, log, ran⟩ := (answers _ _ shows (by decide)).mpr single
  cases resets silent s after log ran
  refine ⟨after, log, ran, (settles _ _ _ ran).1, ?_⟩
  rw [ran] at same
  exact same.elsewhere ["home", "notes.txt"] (by decide)

end ProfileShell.SettingsFolder
