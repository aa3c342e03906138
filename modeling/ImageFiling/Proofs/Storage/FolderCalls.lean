import ImageFiling.Proofs.Session.Run
import ImageFiling.Storage.FolderService

/-!
# Calls of the folder service

Each call is one request and a reading of the reply to it. The readings are functions of the reply
alone; the runs of all sessions of the service are put together from `request_ran` and `call_ran`.
-/

namespace ImageFiling.FolderService

open Session

variable {σ : Type} (account : FolderAccount)

/-! ### What is read from a reply -/

def valueOf (action : Text) : Http.Reply → Except Failure Json
  | .refused reason => .error (.storage (.connection reason))
  | .response r =>
    if !r.isOk then .error (.storage (.status action r.status r.text))
    else r.json.mapError fun reason => .storage (.unreadable reason)
  | .raised reason => .error (.raised reason)

def answerOf (action : Text) (reply : Http.Reply) : Except Failure Json := do
  let answer ← valueOf action reply
  if isSuccess answer then .ok answer else .error (.storage (rejection action answer))

def foldersOf (parent : Int) (answer : Json) : Except Failure (List Folder) :=
  match (answer.member? "result").bind (·.member? "folders") with
  | some (.array entries) =>
    match entries.mapM folder? with
    | some folders => .ok folders
    | none => .error (.storage (.folderEntry (.array entries)))
  | _ => .error (.storage (.listing parent answer))

def listingOf (parent : Int) (reply : Http.Reply) : Except Failure (List Folder) :=
  answerOf "list folders" reply >>= foldersOf parent

def createdOf (reply : Http.Reply) : Except Failure Int :=
  answerOf "create folder" reply >>= fun answer => (createdId answer).mapError .storage

def serverOf (answer : Json) : Except Failure (Json × Json) :=
  match (answer.member? "result").filter (·.isPresent),
      (answer.member? "sess_id").filter (·.isPresent) with
  | some server, some sessionId => .ok (server, sessionId)
  | _, _ => .error (.storage (.unknownAnswer answer))

def assignedOf (reply : Http.Reply) : Except Failure (Json × Json) :=
  answerOf "get upload server" reply >>= serverOf

def storedOf (reply : Http.Reply) : Except Failure Json := do
  let stored ← valueOf "upload file" reply
  match fileCode? stored with
  | some code => .ok code
  | none => .error (.storage (.unknownAnswer stored))

/-! ### Requests -/

def callRequest (endpoint : Text) (parameters : Json.Members) : Http.Request :=
  ⟨"GET", .text (base ++ endpoint),
    .parameters (parameters ++ [("key".toList, .text account.apiKey)])⟩

def listRequest (parent : Int) : Http.Request :=
  callRequest account "folder/list" [("fld_id", .ofInt parent)]

def createRequest (parent : Int) (name : Text) : Http.Request :=
  callRequest account "folder/create" [("parent_id", .ofInt parent), ("name", .text name)]

def serverRequest : Http.Request := callRequest account "upload/server" []

def fileRequest (server sessionId : Json) (u : Upload) : Http.Request :=
  ⟨"POST", server, .upload [("sess_id", sessionId), ("utype", .text "prem")]
    ⟨"file_0", u.fileName, u.content, u.contentType⟩⟩

def moveRequest (code : Json) (folder : Int) : Http.Request :=
  callRequest account "file/set_folder" [("file_code", code), ("fld_id", .ofInt folder)]

/-! ### Calls as requests -/

theorem request_eq (action method : Text) (address : Json) (payload : Http.Payload) :
    (request action method address payload : Session σ Json) =
      ask ⟨method, address, payload⟩ (valueOf action) := by
  unfold request ask
  congr 1
  funext reply
  cases reply with
  | refused reason => rfl
  | response r =>
    unfold valueOf
    dsimp only
    split <;> rfl
  | raised reason => rfl

theorem checked_eq (action : Text) (answer : Json) :
    (checked action answer : Session σ Json) = ended
      (if isSuccess answer then .ok answer else .error (.storage (rejection action answer))) := by
  unfold checked
  split <;> rfl

theorem call_eq (endpoint action : Text) (parameters : Json.Members) :
    (call account endpoint action parameters : Session σ Json) =
      ask (callRequest account endpoint parameters) (answerOf action) := by
  unfold call
  dsimp only
  rw [request_eq]
  exact ask_bind (checked_eq action)

/-- The order in which folders are looked through. -/
def sorted (folders : List Folder) : List Folder :=
  folders.mergeSort fun f g => Text.le f.key g.key

theorem folders_eq (parent : Int) :
    (folders account parent : Session σ (List Folder)) =
      ask (listRequest account parent) fun reply => sorted <$> listingOf parent reply := by
  unfold folders listingOf
  rw [call_eq]
  simp only [map_bind]
  refine ask_bind fun answer => ?_
  unfold foldersOf
  generalize (answer.member? "result").bind (·.member? "folders") = listed
  rcases listed with _ | _ | _ | _ | _ | entries | _
  case some.array =>
    dsimp only
    cases entries.mapM folder? <;> rfl
  all_goals rfl

theorem create_eq (parent : Int) (name : Text) :
    (create account parent name : Session σ Int) =
      ask (createRequest account parent name) createdOf := by
  unfold create
  rw [call_eq]
  exact ask_bind fun _ => rfl

theorem store_eq (u : Upload) :
    (store account u.fileName u.content u.contentType : Session σ Json) =
      ask (serverRequest account) assignedOf >>= fun assigned =>
        ask (fileRequest assigned.1 assigned.2 u) storedOf := by
  have assigned : (ask (serverRequest account) assignedOf : Session σ (Json × Json)) =
      ask (serverRequest account) (answerOf "get upload server") >>= fun a => ended (serverOf a) :=
    (ask_bind fun _ => rfl).symm
  have stored (server sessionId : Json) : (ask (fileRequest server sessionId u) storedOf) =
      (request "upload file" "POST" server (.upload [("sess_id", sessionId), ("utype", .text "prem")]
        ⟨"file_0", u.fileName, u.content, u.contentType⟩) >>= fun stored =>
          match fileCode? stored with
          | some code => pure code
          | none => fail (.storage (.unknownAnswer stored)) : Session σ Json) := by
    rw [request_eq]
    refine (ask_bind fun stored => ?_).symm
    cases fileCode? stored <;> rfl
  rw [assigned, bind_assoc]
  unfold store
  rw [call_eq]
  congr 1
  funext answer
  unfold serverOf
  generalize (answer.member? "result").filter _ = server
  generalize (answer.member? "sess_id").filter _ = sessionId
  cases server with
  | none => rfl
  | some server =>
    cases sessionId with
    | none => rfl
    | some sessionId => exact (stored server sessionId).symm

theorem setFolder_eq (code : Json) (folder : Int) :
    (setFolder account code folder : Session σ Unit) =
      ask (moveRequest account code folder) (answerOf "set file folder") >>= fun _ =>
        note .info ("Folder " ++ Text.signed folder ++ " assigned to file " ++ code.display) := by
  unfold setFolder
  rw [call_eq]
  rfl

/-! ### Runs of the calls -/

variable (w : World σ) (s : σ)

theorem folders_ran (parent : Int) :
    Ran (folders account parent) w s
      [⟨listRequest account parent, (w.serve (listRequest account parent) s).1⟩]
      (sorted <$> listingOf parent (w.serve (listRequest account parent) s).1)
      (w.serve (listRequest account parent) s).2 := by
  rw [folders_eq]
  exact ask_ran _ _ w s

theorem create_ran (parent : Int) (name : Text) :
    Ran (create account parent name) w s
      [⟨createRequest account parent name, (w.serve (createRequest account parent name) s).1⟩]
      (createdOf (w.serve (createRequest account parent name) s).1)
      (w.serve (createRequest account parent name) s).2 := by
  rw [create_eq]
  exact ask_ran _ _ w s

/-! ### Steps of the walk -/

variable {account w s} {t u : σ} {parent : Int} {name : Text} {rest : List Text} {level : Nat}
  {xs ys : List Exchange}

theorem descend_found {result : Except Failure Int} {fs : List Folder} {f : Folder}
    (listed : Ran (folders account parent) w s xs (.ok fs) t)
    (look : fs.find? (·.key = Text.lower name) = some f)
    (below : Ran (descend account f.id (level + 1) rest) w t ys result u) :
    Ran (descend account parent level (name :: rest)) w s (xs ++ ys) result u := by
  refine listed.bind ?_
  rw [look]
  exact below

theorem descend_missing {result : Except Failure Int} {fs : List Folder}
    (listed : Ran (folders account parent) w s xs (.ok fs) t)
    (look : fs.find? (·.key = Text.lower name) = none)
    (below : Ran (createAll account parent level (name :: rest)) w t ys result u) :
    Ran (descend account parent level (name :: rest)) w s (xs ++ ys) result u := by
  refine listed.bind ?_
  rw [look]
  exact below

theorem createAll_created {result : Except Failure Int} {id : Int}
    (created : Ran (create account parent name) w s xs (.ok id) t)
    (below : Ran (createAll account id (level + 1) rest) w t ys result u) :
    Ran (createAll account parent level (name :: rest)) w s (xs ++ ys) result u :=
  created.bind ((note_ran _ _ _ _).bind below)

end ImageFiling.FolderService
