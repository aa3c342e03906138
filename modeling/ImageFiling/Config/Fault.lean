import ImageFiling.Config.Reading
import ImageFiling.Files.Basic

/-!
# Faults of configuration files
-/

namespace ImageFiling

inductive ConfigFault where
  | unread (path : FilePath) (f : FileFault)
  | unreadable (path : FilePath)
  | invalid (path : FilePath) (issues : List Config.Issue)
  deriving DecidableEq, Repr

def ConfigFault.message : ConfigFault → Text
  | unread path f => "Could not read config file '" ++ path.text ++ "': " ++ f.message
  | unreadable path =>
    "Could not read config file '" ++ path.text ++ "': not a JSON document in UTF-8"
  | invalid path issues =>
    "Invalid config in '" ++ path.text ++ "': " ++
      Text.joined "; " (issues.map Config.Issue.text)

end ImageFiling
