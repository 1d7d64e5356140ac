/-
  Dashboard.Main
  ──────────────
  The program: it reads the files that a command may look at, runs the command
  and writes what it changed.
-/
import Dashboard.Command.Run
import Std.Time.DateTime.Timestamp

namespace Dashboard.Program

open Command

/-- What a path leads to. -/
def entryAt (path : String) : IO FileEntry := do
  try
    return .file (← IO.FS.readBinFile path).toList
  catch
    | .inappropriateType .. => return .directory
    | _ => return .absent

/-- The files with what a path leads to. -/
def withPath (f : Files) (path : String) : IO Files := do
  match ← entryAt path with
  | .file octets => return f.put path octets
  | .directory => return { f with directories := FilePath.normal path :: f.directories }
  | .absent => return f

/-- The files with what paths and the directories around them lead to. -/
def withPaths (f : Files) (paths : List String) : IO Files :=
  (paths ++ paths.map FilePath.parent).foldlM withPath f

/-- Write the files that differ from those before, and remove those that are gone. -/
def store (before after : Files) : IO Unit := do
  for directory in after.directories do
    unless before.directories.contains directory do
      IO.FS.createDirAll directory
  for (path, octets) in after.contents do
    unless before.contents.get? path == some octets do
      unless (FilePath.parent path).isEmpty do
        IO.FS.createDirAll (FilePath.parent path)
      IO.FS.writeBinFile path ⟨octets.toArray⟩
  for (path, _) in before.contents do
    unless (after.contents.get? path).isSome do
      IO.FS.removeFile path

/-- Run a command at this moment. -/
def runNow (i : Invocation) (home : String) : IO UInt32 := do
  let files ← withPaths ⟨[], []⟩ (home :: interimPath home :: i.paths)
  let storage := (loadConfig files i).toOption.bind (·.storage.path)
  let files ← withPaths files (storage.toList ++ storage.toList.map interimPath)
  let now := (← Std.Time.Timestamp.now).toMillisecondsSinceUnixEpoch.toInt
  let newId := panelIdOf (← IO.getRandomBytes 16).toList
  let (result, desk) := run ⟨files, .fresh statusTtl⟩ ⟨⟨now⟩, newId, home, none⟩ i
  store files desk.files
  match result with
  | .ok lines =>
    (← IO.getStdout).putStr (reportText lines)
    return 0
  | .error e =>
    (← IO.getStderr).putStrLn s!"error: {e.message}"
    return UInt32.ofNat e.exitCode

end Dashboard.Program

open Dashboard Dashboard.Command in
/-- Run the command that the arguments ask for. -/
def main (words : List String) : IO UInt32 := do
  match Invocation.ofArguments? words with
  | none =>
    (← IO.getStderr).putStrLn "error: the arguments are no command with its operands and options"
    return UInt32.ofNat usageExitCode
  | some i =>
    let config := i.config.or (← IO.getEnv "DASHKIT_CONFIG")
    let home := homeFile (← IO.getEnv "XDG_STATE_HOME") (← IO.getEnv "HOME")
    Program.runNow { i with config } home
