import ImageFiling.Files.Basic
import ImageFiling.Proofs.Result

/-!
# Faults of files

A path cannot be looked up if it or one of its names is too long, or where a directory may not be
searched (`Blocked`). A file that is found is read, unless it is one that cannot be (`Unread`).
-/

namespace ImageFiling.Files

variable {files : Files} {path dir : FilePath} {e : FileFault} {reason : Text}

/-- The names of a path, followed from a directory, come by another one. -/
inductive ComesBy (files : Files) : FilePath → List Text → FilePath → Prop where
  | here {dir : FilePath} {n : Text} {rest : List Text} : ComesBy files dir (n :: rest) dir
  | up {dir above dir' : FilePath} {rest : List Text} (leads : above? dir = some above)
    (later : ComesBy files above rest dir') : ComesBy files dir (FilePath.up :: rest) dir'
  | down {dir dir' : FilePath} {n : Text} {rest : List Text}
    (later : ComesBy files (dir.child n) rest dir') : ComesBy files dir (n :: rest) dir'

/-- Why a path cannot be looked up: it is too long, or comes by a directory that is locked. -/
inductive Blocked (files : Files) (path : FilePath) : FileFault → Prop where
  | longName {n : Text} (member : n ∈ path.names) (long : nameLimit < (Utf8.encode n).length) :
    Blocked files path ⟨FileFault.tooLong, path.text⟩
  | longPath (long : pathLimit < (Utf8.encode path.text).length) :
    Blocked files path ⟨FileFault.tooLong, path.text⟩
  | locked {dir : FilePath} {reason : Text} (way : files.ComesBy (startOf path) path.names dir)
    (lock : files.lock? dir = some reason) : Blocked files path ⟨reason, path.text⟩

/-- Why the content of a file is not there to be used. -/
inductive Unread (files : Files) (path : FilePath) : FileFault → Prop where
  | blocked {e : FileFault} (blocked : files.Blocked path e) : Unread files path e
  | unreadable {reason : Text} (found : files.find? path = .ok (some (.unreadable reason))) :
    Unread files path ⟨reason, path.text⟩

theorem follow_error {names : List Text} (failed : files.follow dir names = .error reason) :
    (reason = FileFault.tooLong ∧ ∃ n ∈ names, nameLimit < (Utf8.encode n).length) ∨
      ∃ dir', files.ComesBy dir names dir' ∧ files.lock? dir' = some reason := by
  induction names generalizing dir with
  | nil => cases failed
  | cons n rest ih =>
    unfold follow at failed
    split at failed
    · next lock =>
      cases failed
      exact .inr ⟨dir, .here, lock⟩
    split at failed
    · next isUp =>
      split at failed
      · next leads =>
        rcases ih failed with ⟨same, m, member, long⟩ | ⟨dir', later, lock⟩
        · exact .inl ⟨same, m, List.mem_cons_of_mem _ member, long⟩
        · exact .inr ⟨dir', isUp ▸ .up leads later, lock⟩
      · cases failed
    split at failed
    · next long =>
      cases failed
      exact .inl ⟨rfl, n, List.mem_cons_self, long⟩
    · have below : files.follow (dir.child n) rest = .error reason := by
        split at failed
        · exact failed
        · exact failed
        · cases failed
      rcases ih below with ⟨same, m, member, long⟩ | ⟨dir', later, lock⟩
      · exact .inl ⟨same, m, List.mem_cons_of_mem _ member, long⟩
      · exact .inr ⟨dir', .down later, lock⟩

theorem find?_error (failed : files.find? path = .error e) : files.Blocked path e := by
  unfold find? at failed
  split at failed
  · cases failed
  split at failed
  · next long =>
    cases failed
    exact .longPath long
  · obtain ⟨reason, stopped, rfl⟩ := mapError_eq_error.mp failed
    rcases follow_error stopped with ⟨rfl, n, member, long⟩ | ⟨dir, way, lock⟩
    · exact .longName member long
    · exact .locked way lock

theorem file?_error (failed : files.file? path = .error e) : files.Blocked path e :=
  find?_error (map_eq_error.mp failed)

theorem file?_unread (found : files.file? path = .ok (some (.error e))) : files.Unread path e := by
  obtain ⟨entry, looked, read⟩ := map_eq_ok.mp found
  split at read
  · cases read
  · cases read
    exact .unreadable looked
  · cases read

theorem content?_eq_some {content : Bytes} :
    files.content? path = .ok (some content) ↔ files.file? path = .ok (some (.ok content)) := by
  unfold content?
  rw [bind_eq_ok]
  constructor
  · rintro ⟨read, found, same⟩
    cases read with
    | none => cases same
    | some read =>
      obtain ⟨_, rfl, same⟩ := bind_eq_ok.mp same
      cases same
      exact found
  · intro found
    exact ⟨_, found, rfl⟩

theorem content?_error (failed : files.content? path = .error e) : files.Unread path e := by
  rcases bind_eq_error.mp failed with unfound | ⟨read, found, unread⟩
  · exact .blocked (file?_error unfound)
  · cases read with
    | none => cases unread
    | some read =>
      rcases bind_eq_error.mp unread with rfl | ⟨_, -, never⟩
      · exact file?_unread found
      · cases never

end ImageFiling.Files
