import ProfileShell.Console.Stream
import ProfileShell.Program
import Std.Time.DateTime

/-!
The command line.

`Program.run` is a function of everything that is typed, so it cannot wait for input by itself.
After every line it is run anew over the lines so far, followed by a reading that fails: a failed
reading changes no file, and what happens before it is what happens before the next line is known.
The part that has not been shown yet is shown, and the files that have changed are written. Earlier
readings of the clock are kept, so that every run sees the same times.
-/

set_option autoImplicit false
set_option relaxedAutoImplicit false

namespace ProfileShell.Main

def pathOf (place : Place) : String :=
  "/" ++ "/".intercalate place

def copyEntry (files : FileSystem) (place : Place) : IO FileSystem := do
  let path := (← IO.currentDir) / pathOf place
  if place.isEmpty then pure files
  else if ← path.isDir then
    pure { files with root := files.root.put place ((files.root.get? place).getD .empty) }
  else if ← path.pathExists then
    pure { files with root := files.root.put place (.file (← IO.FS.readBinFile path)) }
  else pure files

def copyFolder (files : FileSystem) (path : Path) : IO FileSystem := do
  let names := if path.isAbsolute then path.names.drop 1 else files.current ++ path.names
  let mut files := files
  for length in List.range names.length do
    match files.walk ⟨"" :: names.take (length + 1)⟩ with
    | .error _ => return files
    | .ok spot => files ← copyEntry files spot.place
  match files.walk ⟨"" :: names⟩ with
  | .error _ => return files
  | .ok spot =>
    let folder := (← IO.currentDir) / pathOf spot.place
    if ← folder.isDir then
      for entry in ← folder.readDir do
        files ← copyEntry files (spot.place ++ [entry.fileName])
    return files

def writeChanges (before after : FileTree) : IO Unit := do
  for (place, entry) in after.contents do
    match entry, before.get? place with
    | .folder _, some (.folder _) => pure ()
    | .folder _, _ => IO.FS.createDir (pathOf place)
    | .file content, some (.file old) =>
      if content.toList ≠ old.toList then IO.FS.writeBinFile (pathOf place) content
    | .file content, _ => IO.FS.writeBinFile (pathOf place) content
  for (place, _) in before.contents do
    if (after.get? place).isNone then IO.FS.removeFile (pathOf place)

def nanoseconds : IO Int := do
  pure (← Std.Time.Timestamp.now).toNanosecondsSinceUnixEpoch.val

/-- The bytes up to a line feed, or none at the end of input. -/
partial def readBytes (input : IO.FS.Stream) (taken : List UInt8) :
    IO (Option (List UInt8)) := do
  match (← input.read 1).toList with
  | [] => pure (if taken.isEmpty then none else some taken.reverse)
  | b :: _ => if b = 10 then pure (some taken.reverse) else readBytes input (b :: taken)

def showRest (shown screen : String) : IO Unit := do
  let output ← IO.getStdout
  output.putStr (String.ofList (screen.toList.drop shown.length))
  output.flush

def reportedLevel? : Level → Option String
  | .debug => none
  | .info => some "INFO"
  | .warn => some "WARN"
  | .error => some "ERROR"

/-- Report the log and the outcome, which decides the exit code. -/
def report (run : Run Machine (Except Failure Unit)) : IO UInt32 := do
  for record in run.log do
    if let some level := reportedLevel? record.level then IO.eprintln s!"[{level}] {record.text}"
  match run.answer with
  | .ok () => pure 0
  | .error e =>
    IO.eprintln ("Error: " ++ e.message)
    pure 1

/-- Go on with a conversation, given the readings and times so far, the tree of files and the
screen. -/
partial def converse (call : Invocation) (start : Machine) (readings : List Input)
    (times : List Int) (tree : FileTree) (shown : String) : IO UInt32 := do
  let now ← nanoseconds
  let clock : Clock := ⟨fun i => times.getD i now, 0⟩
  let runOver := fun (pending : List Input) =>
    Task.runOn (Program.run call) { start with console := .ofInput pending, clock }
  let run := runOver (readings ++ [.failure (.reported "no input yet")])
  let (asked, happened) := Console.untilAsked readings.length run.state.console.transcript
  let screen := Console.screen (readings.length + 1) happened
  showRest shown screen
  writeChanges tree run.state.files.root
  if asked then
    match ← readBytes (← IO.getStdin) [] with
    | some line =>
      let times := (List.range run.state.clock.taken).map clock.reading
      converse call start (readings ++ [Console.readingOfBytes line]) times run.state.files.root
        screen
    | none =>
      let last := runOver readings
      showRest screen (Console.screen readings.length last.state.console.transcript)
      writeChanges run.state.files.root last.state.files.root
      report last
  else report run

/-- The part of the system's files that a call is about: the working directory, and the folder of
records that its settings name. -/
def relevantFiles (call : Invocation) (current : Place) : IO FileSystem := do
  let start ← copyFolder { FileSystem.empty with current } (.ofText (pathOf current))
  match Program.workingDirectory call with
  | none => pure start
  | some home =>
    let files ← copyFolder start home
    match (Task.runOn SettingsFolder.loadOrReset ⟨files, home⟩).answer with
    | .error _ => pure files
    | .ok settings => copyFolder files (home.join (.ofText settings.savesDir))

end ProfileShell.Main

open ProfileShell in
/-- Run the program on the system's files and streams. -/
def main (args : List String) : IO UInt32 := do
  let current := (Path.ofText (← IO.currentDir).toString).names.filter fun name => !name.isEmpty
  let environment ← ["CLIENGINE_HOME", "HOME", "USERPROFILE"].mapM fun name => do
    pure (name, ← IO.getEnv name)
  let call : Invocation := ⟨args.head?, fun name => (environment.lookup name).getD none⟩
  let files ← Main.relevantFiles call current
  Main.converse call ⟨files, .ofInput [], .regular 0 0⟩ [] [] files.root ""
