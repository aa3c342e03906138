import ImageFiling.Command.Invocation
import ImageFiling.Config.File
import ImageFiling.Image.Source
import ImageFiling.Session.Saving
import ImageFiling.Settings.Logging
import ImageFiling.Storage.Provider

/-!
# Running a command

A command ends with a report: exit status and what is printed. Failures of the kinds that have a name
are told to the user; the others end the program. Before a command is run the settings are read and
the log is set up, of which a failure is told to nobody.
-/

namespace ImageFiling.Command

variable {σ : Type}

structure Surroundings where
  settings : Settings
  files : Files

def done (line : Text) : Report := ⟨0, line ++ ['\n'], []⟩

def declined (line : Text) : Report := ⟨1, line ++ ['\n'], []⟩

/-- The configuration file that is asked for, or that of the settings. -/
def configPath (s : Surroundings) : Option Text → FilePath
  | some (c :: path) => FilePath.parse (c :: path)
  | _ => s.settings.configFile

def loadConfig (s : Surroundings) (asked : Option Text) : Session σ Config :=
  Config.load s.files (configPath s asked) Config.defaults

def runSave (s : Surroundings) (asked : Option Text) (source : Text) (page : Page) :
    Session σ Report := do
  let config ← loadConfig s asked
  match ← config.openProvider with
  | none => return ⟨1, [], []⟩
  | some provider =>
    let image ← Source.image s.files source (some page.url)
    let saved ← Saving.save provider.client config.templates page image {} none
    return done (saved.directory ++ '/' :: saved.fileName ++ " (" ++ saved.remoteId ++ ")")

def runValidate (s : Surroundings) (asked : Option Text) : Session σ Report := do
  let config ← loadConfig s asked
  match ← config.openProvider with
  | none => return ⟨1, [], []⟩
  | some provider =>
    if ← provider.client.checkCredentials then return done "Credentials are valid."
    else return declined "Invalid credentials, please check the provider options."

def runCheckPattern (pattern url : Text) (isDirectory : Bool) : Session σ Report := do
  let now ← Session.now
  let field := if isDirectory then TemplateField.directory else .fileName
  return done (← Session.lift .naming (Naming.preview field pattern url now))

def runMatchUrl (s : Surroundings) (asked : Option Text) (url : Text) : Session σ Report := do
  let config ← loadConfig s asked
  match Naming.findTemplate? config.templates url with
  | none => return declined "No template matched, the default path will be used."
  | some (t, place) =>
    return done ("Template #" ++ Text.numeral (place + 1) ++ " matched: " ++ t.url)

def perform (s : Surroundings) (i : Invocation) : Session σ Report :=
  match i.action with
  | .save image page title => runSave s i.config image ⟨page, title⟩
  | .validate => runValidate s i.config
  | .checkPattern pattern url isDirectory => runCheckPattern pattern url isDirectory
  | .matchUrl url => runMatchUrl s i.config url

/-- Runs a command and reports a failure that has a name. -/
def run (s : Surroundings) (i : Invocation) : Session σ Report := do
  match ← Session.attempt (perform s i) with
  | .ok report => return report
  | .error f =>
    match f.kind.name? with
    | some name =>
      Session.note .error (name ++ ": " ++ f.message)
      return ⟨1, [], "Error: " ++ f.message ++ ['\n']⟩
    | none => Session.fail f

/-! ### The start -/

/-- What a program finds when it starts: the environment, the files, and its own directory. -/
structure Host where
  environment : List (Text × Text)
  files : Files
  home : FilePath

/-- The settings of a run and where its log goes. -/
def Host.prepare (h : Host) : Except Failure (Settings × Logging) := do
  let settings ← (Settings.read h.environment h.files h.home).mapError .settings
  let logging ← (Logging.ofSettings settings h.files).mapError .logging
  return (settings, logging)

/-- Starts the program with a command. -/
def start (h : Host) (i : Invocation) : Session σ Report := do
  let (settings, _) ← Session.lift id h.prepare
  run ⟨settings, h.files⟩ i

end ImageFiling.Command
