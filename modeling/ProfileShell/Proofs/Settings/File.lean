import ProfileShell.Proofs.Action.Ensures
import ProfileShell.Proofs.FileSystem.Writing
import ProfileShell.Proofs.Settings.Text
import ProfileShell.Settings.File

/-!
Settings that were saved in a folder are loaded from it.

The file is written as a whole and found again under the same path. Only the system can refuse to
save: there is no text that cannot be written.
-/

set_option autoImplicit false
set_option relaxedAutoImplicit false

namespace ProfileShell.SettingsFolder

variable {d : SettingsFolder} {s : Settings}

theorem path_eq (d : SettingsFolder) : d.path = d.folder.entry fileName := by
  rw [path, Path.ofText_of_slashless (by decide)]
  rfl

theorem isEntryName_fileName : Path.IsEntryName fileName :=
  ⟨by decide, by decide⟩

theorem runOn_save_of_ok {after : FileSystem}
    (written : d.files.writeFile d.path s.toText.toUTF8 = .ok after) :
    (save s).runOn d = ⟨.ok (), { d with files := after }, []⟩ := by
  unfold save
  rw [Task.runOn_get_bind]
  simp only [written]
  rfl

theorem runOn_save_of_error {fault : SystemFault}
    (refused : d.files.writeFile d.path s.toText.toUTF8 = .error fault) :
    (save s).runOn d = ⟨.error (.system fault), d, []⟩ := by
  unfold save
  rw [Task.runOn_get_bind]
  simp only [refused]
  rfl

theorem runOn_load_of_text {text : String} (read : d.files.readText d.path = .ok text)
    (told : Settings.ofText text = .ok s) : load.runOn d = ⟨.ok (some s), d, []⟩ := by
  unfold load
  rw [Task.runOn_get_bind]
  simp only [FileSystem.isFile_of_readText read, if_true, read, told]
  rfl

/-- Settings that the system let a folder save are loaded from the folder, which stays as it is. -/
theorem runOn_load_of_save {after : SettingsFolder} {log : List LogRecord}
    (saved : (save s).runOn d = ⟨.ok (), after, log⟩) :
    load.runOn after = ⟨.ok (some s), after, []⟩ := by
  cases written : d.files.writeFile d.path s.toText.toUTF8 with
  | error fault =>
    rw [runOn_save_of_error written] at saved
    cases saved
  | ok files =>
    rw [runOn_save_of_ok written] at saved
    cases saved
    exact runOn_load_of_text (FileSystem.readText_of_writeFile written) s.ofText_toText

private theorem exists_runOn_save {place : Place} {entries : List (String × FileTree)}
    (shows : d.files.Shows d.folder place entries) (fits : FileSystem.Fits d.folder fileName)
    (free : ∀ others, entries.lookup fileName ≠ some (.folder others)) (s : Settings) :
    ∃ after, (save s).runOn d = ⟨.ok (), after, []⟩ := by
  obtain ⟨files, written, -⟩ :=
    (shows.writeFile_entry isEntryName_fileName (by decide) free s.toText.toUTF8).1 fits
  rw [← path_eq] at written
  exact ⟨_, runOn_save_of_ok written⟩

private theorem eq_of_runOn_save_error {after : SettingsFolder} {e : Failure} {log : List LogRecord}
    (refused : (save s).runOn d = ⟨.error e, after, log⟩) :
    after = d ∧ ∃ fault, e = .system fault := by
  cases written : d.files.writeFile d.path s.toText.toUTF8 with
  | error fault =>
    rw [runOn_save_of_error written] at refused
    cases refused
    exact ⟨rfl, fault, rfl⟩
  | ok files =>
    rw [runOn_save_of_ok written] at refused
    cases refused

/-- Settings survive their text and their file. The text of any settings is read as these settings.
Whenever they are saved in a folder, they are loaded from it again; they are saved in every folder
with room for their file, and are refused by the system alone. -/
theorem settings_survive_saving (s : Settings) :
    Settings.ofText s.toText = .ok s ∧
      (∀ (d after : SettingsFolder) (log : List LogRecord),
        (save s).runOn d = ⟨.ok (), after, log⟩ →
          load.runOn after = ⟨.ok (some s), after, []⟩) ∧
      (∀ (d : SettingsFolder) (place : Place) (entries : List (String × FileTree)),
        d.files.Shows d.folder place entries → FileSystem.Fits d.folder fileName →
          (∀ others, entries.lookup fileName ≠ some (.folder others)) →
            ∃ after, (save s).runOn d = ⟨.ok (), after, []⟩) ∧
      ∀ (d after : SettingsFolder) (e : Failure) (log : List LogRecord),
        (save s).runOn d = ⟨.error e, after, log⟩ → after = d ∧ ∃ fault, e = .system fault :=
  ⟨s.ofText_toText, fun _ _ _ saved => runOn_load_of_save saved,
    fun _ _ _ shows fits free => exists_runOn_save shows fits free s,
    fun _ _ _ _ refused => eq_of_runOn_save_error refused⟩

/-- Quotes, backslashes, line breaks, controls and letters beyond ASCII, in a folder that holds
older settings. -/
theorem settings_survive_saving_quotesAndBreaks :
    let s : Settings :=
      ⟨.warn, "", "it's \"\"\" or '''\\\n", "\n\r\n\x00\x7f", "é \"λ\"\t"⟩
    let home : SettingsFolder :=
      ⟨⟨.folder [("home", .folder [("settings.toml", .file Settings.standard.toText.toUTF8)])], []⟩,
        .ofText "home"⟩
    ∃ after, (save s).runOn home = ⟨.ok (), after, []⟩ ∧
      load.runOn after = ⟨.ok (some s), after, []⟩ := by
  intro s home
  obtain ⟨-, loaded, saved, -⟩ := settings_survive_saving s
  have shows : home.files.Shows home.folder ["home"]
      [("settings.toml", .file Settings.standard.toText.toUTF8)] :=
    ⟨by decide, rfl, rfl⟩
  obtain ⟨after, kept⟩ := saved home _ _ shows (by decide) (by
    intro others same
    cases same)
  exact ⟨after, kept, loaded home after [] kept⟩

end ProfileShell.SettingsFolder
