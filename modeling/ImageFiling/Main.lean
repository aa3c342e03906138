import ImageFiling.Command.Run
import ImageFiling.Command.Usage
import Std.Time.DateTime.Timestamp

/-!
# The program

Reads arguments, environment and files, starts the command, and prints its report. There is no network
here: every request is refused. The local zone is taken to be UTC.
-/

namespace ImageFiling.Program

/-- A world without network, at a moment. -/
def offline (now : Moment) : World Unit where
  serve _ s := (.refused "no network connection", s)
  clock _ := now

def currentMoment : IO Moment := do
  let nanoseconds := (← Std.Time.Timestamp.now).toNanosecondsSinceUnixEpoch.val
  return (Moment.ofEpoch? (nanoseconds / 1000)).getD ⟨⟨1970, 1, 1⟩, 0, 0, 0, 0, .ok 0⟩

def environment : IO (List (Text × Text)) := do
  let mut found := []
  for name in ["log_level", "config_file", "base_dir", "LOG_LEVEL", "CONFIG_FILE", "BASE_DIR"] do
    if let some value ← IO.getEnv name then
      found := found ++ [(name.toList, value.toList)]
  return found

/-- What stands at a path that leads somewhere. -/
def read (path : FilePath) : IO FileEntry := do
  try
    let content ← IO.FS.readBinFile (String.ofList path.text)
    return .file content.toList
  catch e =>
    match e with
    | .inappropriateType .. => return .directory
    | e => return .unreadable e.toString.toList

/-- What is found for a path: its entry, or the directory in which it cannot be looked up. -/
def find? (path : FilePath) : IO (Option (FilePath × FileEntry)) := do
  try
    let _ ← IO.FS.realPath (String.ofList path.text)
    return some (path, ← read path)
  catch e =>
    match e with
    | .noFileOrDirectory .. | .inappropriateType .. => return none
    | e => return some ({ path with names := path.names.dropLast }, .locked e.toString.toList)

def readFiles (candidates : List Text) : IO Files := do
  let mut entries := []
  for candidate in candidates do
    if let some entry ← find? (FilePath.parse candidate) then
      entries := entries ++ [entry]
  return ⟨entries⟩

def candidates (i : Command.Invocation) (s : Settings) : List Text :=
  i.config.toList ++ s.configFile.text :: match i.action with
    | .save image _ _ => [image]
    | _ => []

/-- Prints the entries of the log from a level on, to the terminal and to the log file. -/
def writeLog (settings : Settings) (level : LogLevel) (entries : List LogEntry) : IO Unit := do
  let errors ← IO.getStderr
  let path := String.ofList settings.logFile.text
  let file ← try
      some <$> IO.FS.Handle.mk path .append
    catch e => do
      if level.rank ≤ LogLevel.error.rank then
        errors.putStrLn s!"root - ERROR - Failed to set up file logging to {path}: {e}"
      pure none
  for e in entries do
    if level.rank ≤ e.level.rank then
      let line := String.ofList ("root - " ++ e.level.name ++ " - " ++ e.message)
      errors.putStrLn line
      if let some file := file then file.putStrLn line

def conclude (r : Command.Report) : IO UInt32 := do
  IO.print (String.ofList r.output)
  (← IO.getStderr).putStr (String.ofList r.errors)
  return UInt32.ofNat r.status

def concludeFailed (f : Failure) : IO UInt32 := conclude ⟨1, [], f.message ++ ['\n']⟩

def perform (i : Command.Invocation) : IO UInt32 := do
  let home := FilePath.parse (← IO.appDir).toString.toList
  let found : Command.Host := ⟨← environment, ← readFiles [Settings.envPath.text], home⟩
  match found.prepare with
  | .error f => concludeFailed f
  | .ok (settings, logging) =>
    let more ← readFiles (candidates i settings)
    let host := { found with files := ⟨found.files.entries ++ more.entries⟩ }
    let outcome := Command.start host i (offline (← currentMoment)) ()
    writeLog settings logging.level outcome.log
    match outcome.result with
    | .ok report => conclude report
    | .error f => concludeFailed f

end ImageFiling.Program

def main (arguments : List String) : IO UInt32 :=
  match ImageFiling.Command.Invocation.ofArguments (arguments.map String.toList) with
  | .error refusal => ImageFiling.Program.conclude refusal.report
  | .ok i => ImageFiling.Program.perform i
