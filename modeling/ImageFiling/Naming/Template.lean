import ImageFiling.Text.Basic

/-!
# Naming templates

A template says for the pages of a URL pattern where their images go: a directory, a file name and
a description, each a pattern with parameters and each optional.
-/

namespace ImageFiling

inductive TemplateField where
  | directory
  | fileName
  | description
  deriving DecidableEq, Repr

/-- A naming template. Its URL pattern is not empty, and its directory is empty or starts with a
slash. -/
structure Template where
  url : Text
  directory : Option Text := none
  fileName : Option Text := none
  description : Option Text := none
  encryption : Bool := false
  url_ne_nil : url ≠ [] := by decide
  directory_rooted : directory.all (·.head?.all (· == '/')) = true := by decide
  deriving DecidableEq, Repr

namespace Template

def pattern? (t : Template) : TemplateField → Option Text
  | .directory => t.directory
  | .fileName => t.fileName
  | .description => t.description

end Template

end ImageFiling
