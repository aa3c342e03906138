import ImageFiling.Text.Basic

/-!
# File paths

A path is a list of names below a root or below the working directory. Reading a path drops empty
names and single dots; two dots stay.
-/

namespace ImageFiling

/-- Where a path starts: in the working directory, at the root, or at the root written with two
slashes, which is told apart from it in texts. -/
inductive PathStart where
  | here
  | root
  | doubleRoot
  deriving DecidableEq, Repr

def PathStart.text : PathStart → Text
  | here => []
  | root => "/"
  | doubleRoot => "//"

structure FilePath where
  start : PathStart
  names : List Text
  deriving DecidableEq, Repr

namespace FilePath

def startOf (t : Text) : PathStart :=
  match (t.takeWhile (· == '/')).length with
  | 0 => .here
  | 2 => .doubleRoot
  | _ => .root

def parse (t : Text) : FilePath :=
  ⟨startOf t, (Text.pieces '/' t).filter fun n => !n.isEmpty && n != ['.']⟩

/-- The text of a path; the working directory is a dot. -/
def text (p : FilePath) : Text :=
  if p.start = .here ∧ p.names = [] then "." else p.start.text ++ Text.joined "/" p.names

def child (p : FilePath) (name : Text) : FilePath := { p with names := p.names ++ [name] }

def name (p : FilePath) : Text := p.names.getLast?.getD []

def up : Text := ".."

/-- The path with every two dots taken together with the name before them. -/
def collapse (p : FilePath) : FilePath :=
  { p with names := p.names.foldl (fun seen n => if n = up then seen.dropLast else seen ++ [n]) [] }

end FilePath

end ImageFiling
