import ImageFiling.Config.Basic
import ImageFiling.Json.Parser
import ImageFiling.Session.Basic

/-!
# Configuration files

A configuration file holds a JSON object, which is set over the defaults. A file that is missing, and
one that holds another value, leave the defaults as they are. A file that cannot be read is a fault of
the configuration; a path that cannot be looked up is not.
-/

namespace ImageFiling.Config

variable {σ : Type}

/-- The value that a file holds. -/
def document? (content : Bytes) : Option Json := (Utf8.decode? content).bind Json.parse?

/-- The value in the file at a path; null for a file that is missing. -/
def saved (files : Files) (path : FilePath) : Session σ Json := do
  match ← Session.lift .file (files.file? path) with
  | none =>
    Session.note .warning
      ("Config file '" ++ path.text ++ "' not found, using the default config.")
    return .null
  | some (.error f) => Session.fail (.config (.unread path f))
  | some (.ok content) =>
    match document? content with
    | none => Session.fail (.config (.unreadable path))
    | some v =>
      Session.note .info ("Loaded config file: " ++ path.text)
      return v

def load (files : Files) (path : FilePath) (defaults : Json.Members) : Session σ Config := do
  let v ← saved files path
  Session.lift (fun issues => .config (.invalid path issues))
    (Config.ofJson (.object (merge defaults v)))

end ImageFiling.Config
