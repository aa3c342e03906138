import ImageFiling.Files.Basic
import ImageFiling.Settings.EnvFile
import ImageFiling.Text.Case

/-!
# Settings

What a run takes from the environment and from the file `.env`: the log level, the configuration
file and the directory of the log file. Names are compared without regard to case; of several the
last counts, and the environment counts before the file.
-/

namespace ImageFiling

structure Settings where
  logLevel : Text
  configFile : FilePath
  baseDirectory : FilePath
  deriving DecidableEq, Repr

/-- Why settings cannot be read: `.env` cannot be looked up or read, or is no text in UTF-8. -/
inductive SettingsFault where
  | file (f : FileFault)
  | notUtf8
  deriving DecidableEq, Repr

def SettingsFault.message : SettingsFault → Text
  | file f => f.message
  | notUtf8 => "the file .env is not a text in UTF-8"

namespace Settings

def envPath : FilePath := FilePath.parse ".env"

/-- The last value of a name, given in lower case. -/
def lookup? (values : List (Text × α)) (name : Text) : Option α :=
  (values.reverse.find? fun v => Text.lower v.1 = name).map (·.2)

/-- The values of the file `.env`; there are none without it. -/
def fileValues (environment : List (Text × Text)) (files : Files) :
    Except SettingsFault (List (Text × Option Text)) := do
  match ← (files.content? envPath).mapError .file with
  | none => return []
  | some content =>
    match Utf8.decode? content with
    | some t => return EnvFile.values environment t
    | none => throw .notUtf8

/-- The value of a name, given in lower case. -/
def value? (environment : List (Text × Text)) (inFile : List (Text × Option Text)) (name : Text) :
    Option Text :=
  match lookup? environment name with
  | some v => some v
  | none => (lookup? inFile name).join

/-- The settings of an environment and the files found; `home` is the directory of the program. -/
def read (environment : List (Text × Text)) (files : Files) (home : FilePath) :
    Except SettingsFault Settings := do
  let value? := value? environment (← fileValues environment files)
  return {
    logLevel := (value? "log_level").getD "INFO"
    configFile := FilePath.parse ((value? "config_file").getD "wic-config.json")
    baseDirectory := ((value? "base_dir").map FilePath.parse).getD home }

def logFile (s : Settings) : FilePath := s.baseDirectory.child "wic.log"

end Settings

end ImageFiling
