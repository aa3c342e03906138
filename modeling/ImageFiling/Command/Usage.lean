import ImageFiling.Command.Invocation

/-!
# Usage

What is printed in place of running a command.
-/

namespace ImageFiling.Command

def usageText : Text :=
  Text.joined "\n"
    ["usage: image-filing [-h] [--config CONFIG] COMMAND ...",
      "",
      "Save web images to remote storage, named by URL templates.",
      "",
      "commands:",
      "  save IMAGE --page-url URL [--title TITLE]",
      "  validate",
      "  check-pattern PATTERN --url URL [--directory]",
      "  match-url URL",
      ""]

def Refusal.report : Refusal → Report
  | help => ⟨help.status, usageText, []⟩
  | usage => ⟨usage.status, [], usageText⟩

end ImageFiling.Command
