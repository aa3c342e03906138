import ImageFiling.Proofs.Storage.FolderCalls
import ImageFiling.Proofs.Text.Order

/-!
# Runs of an upload

The exchanges of an upload in a world that may answer anything: a walk down existing folders, the
creation of the rest, and the filing of the content. Each phase goes on from what the reply before
it gave, and a reply that cannot be read ends the run.
-/

namespace ImageFiling.FolderService

open Session

/-- Folders are created inside each other until a reply gives no id. -/
inductive Creation (account : FolderAccount) :
    Int → List Text → List Exchange → Except Failure Int → Prop where
  | done (parent : Int) : Creation account parent [] [] (.ok parent)
  | stopped {parent : Int} {name : Text} {rest : List Text} {reply : Http.Reply} {e : Failure}
      (read : createdOf reply = .error e) :
      Creation account parent (name :: rest) [⟨createRequest account parent name, reply⟩] (.error e)
  | created {parent id : Int} {name : Text} {rest : List Text} {reply : Http.Reply}
      {xs : List Exchange} {result : Except Failure Int} (read : createdOf reply = .ok id)
      (below : Creation account id rest xs result) :
      Creation account parent (name :: rest) (⟨createRequest account parent name, reply⟩ :: xs)
        result

/-- Folders are looked up one inside the other until a reply cannot be read or has no folder of the
name; from there on they are created. -/
inductive Walk (account : FolderAccount) :
    Int → List Text → List Exchange → List Exchange → Except Failure Int → Prop where
  | done (parent : Int) : Walk account parent [] [] [] (.ok parent)
  | stopped {parent : Int} {name : Text} {rest : List Text} {reply : Http.Reply} {e : Failure}
      (read : listingOf parent reply = .error e) :
      Walk account parent (name :: rest) [⟨listRequest account parent, reply⟩] [] (.error e)
  | found {parent : Int} {name : Text} {rest : List Text} {reply : Http.Reply} {fs : List Folder}
      {f : Folder} {lists creates : List Exchange} {result : Except Failure Int}
      (read : listingOf parent reply = .ok fs)
      (look : fs.find? (·.key = Text.lower name) = some f)
      (below : Walk account f.id rest lists creates result) :
      Walk account parent (name :: rest) (⟨listRequest account parent, reply⟩ :: lists) creates
        result
  | missing {parent : Int} {name : Text} {rest : List Text} {reply : Http.Reply}
      {fs : List Folder} {creates : List Exchange} {result : Except Failure Int}
      (read : listingOf parent reply = .ok fs)
      (look : fs.find? (·.key = Text.lower name) = none)
      (below : Creation account parent (name :: rest) creates result) :
      Walk account parent (name :: rest) [⟨listRequest account parent, reply⟩] creates result

/-- A file is filed under a folder: a server is assigned, the content is sent to it, and what it is
then called is moved into the folder, unless that is the root, where it already is. -/
inductive Filing (account : FolderAccount) (u : Upload) (folder : Int) :
    List Exchange → Except Failure Json → Prop where
  | unassigned {assign : Http.Reply} {e : Failure} (assigned : assignedOf assign = .error e) :
      Filing account u folder [⟨serverRequest account, assign⟩] (.error e)
  | unstored {assign stored : Http.Reply} {server sessionId : Json} {e : Failure}
      (assigned : assignedOf assign = .ok (server, sessionId))
      (refused : storedOf stored = .error e) :
      Filing account u folder
        [⟨serverRequest account, assign⟩, ⟨fileRequest server sessionId u, stored⟩] (.error e)
  | inRoot {assign stored : Http.Reply} {server sessionId code : Json}
      (assigned : assignedOf assign = .ok (server, sessionId))
      (accepted : storedOf stored = .ok code) (root : folder = rootId) :
      Filing account u folder
        [⟨serverRequest account, assign⟩, ⟨fileRequest server sessionId u, stored⟩] (.ok code)
  | moved {assign stored move : Http.Reply} {server sessionId code : Json}
      (assigned : assignedOf assign = .ok (server, sessionId))
      (accepted : storedOf stored = .ok code) (notRoot : folder ≠ rootId) :
      Filing account u folder
        [⟨serverRequest account, assign⟩, ⟨fileRequest server sessionId u, stored⟩,
          ⟨moveRequest account code folder, move⟩]
        (answerOf "set file folder" move >>= fun _ => .ok code)

/-- The exchanges of an upload: a walk to its folder and, if that ends at one, the filing there. -/
inductive Uploading (account : FolderAccount) (u : Upload) :
    List Exchange → List Exchange → List Exchange → Except Failure Json → Prop where
  | unresolved {lists creates : List Exchange} {e : Failure}
      (walk : Walk account rootId (segments u.directory) lists creates (.error e)) :
      Uploading account u lists creates [] (.error e)
  | resolved {lists creates rest : List Exchange} {folder : Int} {result : Except Failure Json}
      (walk : Walk account rootId (segments u.directory) lists creates (.ok folder))
      (filing : Filing account u folder rest result) :
      Uploading account u lists creates rest result

variable {σ : Type} (account : FolderAccount) (w : World σ) (s : σ)

theorem createAll_ran (parent : Int) (level : Nat) (names : List Text) :
    ∃ xs result t, Ran (createAll account parent level names) w s xs result t ∧
      Creation account parent names xs result := by
  induction names generalizing s parent level with
  | nil => exact ⟨[], .ok parent, s, pure_ran _ _ _, .done _⟩
  | cons name rest ih =>
    have first := create_ran account w s parent name
    cases read : createdOf (w.serve (createRequest account parent name) s).1 with
    | error e =>
      rw [read] at first
      exact ⟨_, _, _, first.bind_error, .stopped read⟩
    | ok id =>
      rw [read] at first
      obtain ⟨xs, result, t, ran, below⟩ := ih _ id (level + 1)
      exact ⟨_, result, t, createAll_created first ran, .created read below⟩

/-- The first folder of a name in the order of a listing is also the first in the sorted one. -/
theorem find?_sorted (name : Text) (fs : List Folder) :
    (sorted fs).find? (·.key = Text.lower name) = fs.find? (·.key = Text.lower name) :=
  Text.find?_mergeSort Folder.key (Text.lower name) fs

theorem descend_ran (parent : Int) (level : Nat) (names : List Text) :
    ∃ lists creates result t, Ran (descend account parent level names) w s (lists ++ creates) result t ∧
      Walk account parent names lists creates result := by
  induction names generalizing s parent level with
  | nil => exact ⟨[], [], .ok parent, s, pure_ran _ _ _, .done _⟩
  | cons name rest ih =>
    have first := folders_ran account w s parent
    cases read : listingOf parent (w.serve (listRequest account parent) s).1 with
    | error e =>
      rw [read] at first
      exact ⟨_, [], _, _, first.bind_error, .stopped read⟩
    | ok fs =>
      rw [read] at first
      cases look : fs.find? (·.key = Text.lower name) with
      | some f =>
        obtain ⟨lists, creates, result, t, ran, below⟩ := ih _ f.id (level + 1)
        have sortedLook := (find?_sorted name fs).trans look
        have run := descend_found first sortedLook ran
        exact ⟨_ :: lists, creates, result, t, run, .found read look below⟩
      | none =>
        obtain ⟨creates, result, t, ran, below⟩ :=
          createAll_ran account w (w.serve (listRequest account parent) s).2 parent level (name :: rest)
        have sortedLook := (find?_sorted name fs).trans look
        exact ⟨[_], creates, result, t, descend_missing first sortedLook ran,
          .missing read look below⟩

def settle (u : Upload) (folder : Int) (code : Json) : Session σ Json := do
  if folder ≠ rootId then setFolder account code folder
  note .info
    ("Image uploaded to FileLu successfully! " ++ u.directory ++ '/' :: u.fileName)
  return code

theorem settle_inRoot (u : Upload) (code : Json) :
    Ran (settle account u rootId code) w s [] (.ok code) s :=
  (note_ran _ _ _ _).bind (pure_ran _ _ _)

theorem settle_moved (u : Upload) {folder : Int} (notRoot : folder ≠ rootId) (code : Json) :
    ∃ move t, Ran (settle account u folder code) w s [⟨moveRequest account code folder, move⟩]
      (answerOf "set file folder" move >>= fun _ => .ok code) t := by
  unfold settle
  rw [if_pos notRoot, setFolder_eq, bind_assoc]
  have asked := ask_ran (moveRequest account code folder) (answerOf "set file folder") w s
  generalize w.serve (moveRequest account code folder) s = served at asked
  obtain ⟨move, t⟩ := served
  refine ⟨move, t, ?_⟩
  cases answered : answerOf "set file folder" move with
  | error e =>
    rw [answered] at asked
    exact asked.bind_error
  | ok answer =>
    rw [answered] at asked
    exact asked.bind ((note_ran _ _ _ _).bind ((note_ran _ _ _ _).bind (pure_ran code _ _)))

theorem file_ran (u : Upload) (folder : Int) :
    ∃ rest result t,
      Ran (store account u.fileName u.content u.contentType >>= settle account u folder) w s rest
        result t ∧ Filing account u folder rest result := by
  rw [store_eq, bind_assoc]
  have first := ask_ran (serverRequest account) assignedOf w s
  generalize w.serve (serverRequest account) s = served at first
  obtain ⟨assign, s₁⟩ := served
  cases assigned : assignedOf assign with
  | error e =>
    rw [assigned] at first
    exact ⟨_, _, _, first.bind_error, .unassigned assigned⟩
  | ok place =>
    obtain ⟨server, sessionId⟩ := place
    rw [assigned] at first
    have second := ask_ran (fileRequest server sessionId u) storedOf w s₁
    generalize w.serve (fileRequest server sessionId u) s₁ = served at second
    obtain ⟨reply, s₂⟩ := served
    cases stored : storedOf reply with
    | error e =>
      rw [stored] at second
      exact ⟨_, _, _, first.bind second.bind_error, .unstored assigned stored⟩
    | ok code =>
      rw [stored] at second
      by_cases root : folder = rootId
      · subst root
        exact ⟨_, _, _, first.bind (second.bind (settle_inRoot account w s₂ u code)),
          .inRoot assigned stored rfl⟩
      · obtain ⟨move, s₃, third⟩ := settle_moved account w s₂ u root code
        exact ⟨_, _, _, first.bind (second.bind third), .moved assigned stored root⟩

/-- Every world leads an upload along one of the ways that are told above. -/
theorem upload_ran (u : Upload) :
    ∃ lists creates rest result t, Ran (upload account u) w s (lists ++ creates ++ rest) result t ∧
      Uploading account u lists creates rest result := by
  obtain ⟨lists, creates, resolved, t, walked, walk⟩ :=
    descend_ran account w s rootId 0 (segments u.directory)
  have upload_eq : (upload account u : Session σ Json) = resolve account u.directory >>= fun folder =>
    store account u.fileName u.content u.contentType >>= settle account u folder := rfl
  rw [upload_eq]
  cases resolved with
  | error e =>
    refine ⟨lists, creates, [], .error e, t, ?_, .unresolved walk⟩
    rw [List.append_nil]
    exact walked.bind_error
  | ok folder =>
    obtain ⟨rest, result, v, ran, filing⟩ := file_ran account w t u folder
    exact ⟨lists, creates, rest, result, v, walked.bind ran, .resolved walk filing⟩

end ImageFiling.FolderService
