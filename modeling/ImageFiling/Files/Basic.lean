import ImageFiling.Files.Path
import ImageFiling.Text.Quoted
import ImageFiling.Text.Utf8

/-!
# Files

The files that a program finds when it starts. A path is followed name by name, so that it may pass
through directories only. A name that is too long, and a directory that may not be searched, end the
look-up with a fault; a file that is found may still not be readable.
-/

namespace ImageFiling

inductive FileEntry where
  | file (content : Bytes)
  /-- A file that cannot be read, for the reason that the system gives. -/
  | unreadable (reason : Text)
  | directory
  /-- A directory in which nothing can be looked up, for the reason that the system gives. -/
  | locked (reason : Text)
  deriving DecidableEq, Repr

/-- The files and directories by path; the directories on the way to them need not be listed. -/
structure Files where
  entries : List (FilePath × FileEntry)
  deriving DecidableEq, Repr

/-- Why a path cannot be looked up, or the file there cannot be read. -/
structure FileFault where
  reason : Text
  path : Text
  deriving DecidableEq, Repr

namespace FileFault

def message (f : FileFault) : Text := f.reason ++ ": " ++ f.path.quoted

def tooLong : Text := "[Errno 36] File name too long"

end FileFault

namespace Files

/-- The entry of names that lead straight down. -/
def entry? (files : Files) (p : FilePath) : Option FileEntry :=
  match files.entries.lookup p with
  | some e => some e
  | none =>
    if files.entries.any fun e => e.1.start = p.start && p.names.isPrefixOf e.1.names then
      some .directory
    else none

/-- Why a directory may not be searched, if it may not. -/
def lock? (files : Files) (dir : FilePath) : Option Text :=
  match files.entry? dir with
  | some (.locked reason) => some reason
  | _ => none

def nameLimit : Nat := 255

def pathLimit : Nat := 4095

/-- Where two dots lead from a directory; nothing is known above the working directory. -/
def above? (p : FilePath) : Option FilePath :=
  if p.start = .here ∧ p.names = [] then none else some { p with names := p.names.dropLast }

/-- What names lead to from a directory, or the reason why that cannot be told. -/
def follow (files : Files) (dir : FilePath) : List Text → Except Text (Option FileEntry)
  | [] => .ok (some .directory)
  | n :: rest =>
    match files.lock? dir with
    | some reason => .error reason
    | none =>
      if n = FilePath.up then
        match above? dir with
        | some dir => files.follow dir rest
        | none => .ok none
      else if (Utf8.encode n).length > nameLimit then .error FileFault.tooLong
      else match files.entry? (dir.child n) with
        | some .directory | some (.locked _) => files.follow (dir.child n) rest
        | found => .ok (if rest.isEmpty then found else none)

/-- The directory in which a path starts. -/
def startOf (p : FilePath) : FilePath := ⟨if p.start = .here then .here else .root, []⟩

def find? (files : Files) (path : FilePath) : Except FileFault (Option FileEntry) :=
  if path.names.any (·.contains '\x00') then .ok none
  else if (Utf8.encode path.text).length > pathLimit then .error ⟨FileFault.tooLong, path.text⟩
  else (files.follow (startOf path) path.names).mapError fun reason => ⟨reason, path.text⟩

/-- The file at a path, if there is one, as what comes of reading it. -/
def file? (files : Files) (path : FilePath) :
    Except FileFault (Option (Except FileFault Bytes)) :=
  (files.find? path).map fun
    | some (.file content) => some (.ok content)
    | some (.unreadable reason) => some (.error ⟨reason, path.text⟩)
    | _ => none

def content? (files : Files) (path : FilePath) : Except FileFault (Option Bytes) := do
  match ← files.file? path with
  | some read => return some (← read)
  | none => return none

def add (files : Files) (path : FilePath) (content : Bytes) : Files :=
  ⟨(path, .file content) :: files.entries⟩

end Files

end ImageFiling
