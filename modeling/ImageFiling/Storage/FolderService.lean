import ImageFiling.Config.Provider
import ImageFiling.Mime.Basic
import ImageFiling.Storage.Client

/-!
# The folder service

A client of the storage service FileLu, which keeps files in a tree of numbered folders. Folders are
looked up by name for every upload; from the first one that is missing on they are created.
-/

namespace ImageFiling.FolderService

variable {σ : Type}

structure Folder where
  id : Int
  name : Text
  deriving DecidableEq, Repr

def rootId : Int := 0

def success : Int := 200

def base : Text := "https://filelu.com/api/"

/-! ### Requests -/

def request (action method : Text) (address : Json) (payload : Http.Payload) : Session σ Json := do
  match ← Session.send ⟨method, address, payload⟩ with
  | .refused reason => Session.fail (.storage (.connection reason))
  | .raised reason => Session.fail (.raised reason)
  | .response r =>
    if !r.isOk then Session.fail (.storage (.status action r.status r.text))
    else Session.lift (fun reason => .storage (.unreadable reason)) r.json

def isSuccess (answer : Json) : Bool := (answer.member? "status").any (·.equalsInt success)

/-- What an answer says about a failure: its status and its message. An answer that is no object is
its own message. -/
def rejection (action : Text) (answer : Json) : StorageFault :=
  match answer with
  | .object _ =>
    .rejected action ((answer.member? "status").getD .null) ((answer.member? "msg").getD .null)
  | answer => .rejected action .null answer

def checked (action : Text) (answer : Json) : Session σ Json :=
  if isSuccess answer then pure answer else Session.fail (.storage (rejection action answer))

def call (account : FolderAccount) (endpoint action : Text) (parameters : Json.Members) :
    Session σ Json := do
  let values := parameters ++ [("key".toList, .text account.apiKey)]
  checked action (← request action "GET" (.text (base ++ endpoint)) (.parameters values))

/-! ### Folders -/

def folder? (entry : Json) : Option Folder := do
  let id ← entry.member? "fld_id"
  let name ← entry.member? "name"
  let id ← (Config.Read.integer id).toOption
  let name ← (Config.Read.text name).toOption
  some ⟨id, name⟩

def Folder.key (f : Folder) : Text := Text.lower f.name

def folders (account : FolderAccount) (id : Int) : Session σ (List Folder) := do
  let answer ← call account "folder/list" "list folders" [("fld_id", .ofInt id)]
  match (answer.member? "result").bind (·.member? "folders") with
  | some (.array entries) =>
    match entries.mapM folder? with
    | some folders => pure (folders.mergeSort fun f g => Text.le f.key g.key)
    | none => Session.fail (.storage (.folderEntry (.array entries)))
  | _ => Session.fail (.storage (.listing id answer))

/-- The id of a new folder: a number is cut off at its point, a text is read. -/
def createdId (answer : Json) : Except StorageFault Int :=
  match (answer.member? "result").bind (·.member? "fld_id") with
  | some (.bool b) => .ok (if b then 1 else 0)
  | some (.number (.int n)) => .ok n
  | some (.number (.double (.infinite _))) => .error .infiniteId
  | some (.number (.double x)) =>
    match x.truncated? with
    | some n => .ok n
    | none => .error (.createdFolder answer)
  | some (.text t) =>
    match Text.integer? t with
    | some n => .ok n
    | none => .error (.createdFolder answer)
  | _ => .error (.createdFolder answer)

def create (account : FolderAccount) (parent : Int) (name : Text) : Session σ Int := do
  let answer ← call account "folder/create" "create folder"
    [("parent_id", .ofInt parent), ("name", .text name)]
  Session.lift .storage (createdId answer)

def segments (directory : Text) : List Text := (directory.pieces '/').filter (!·.isEmpty)

def createdNote (level : Nat) (name : Text) (id : Int) : Text :=
  Text.numeral level ++ ") Folder '" ++ name ++ "' created: " ++ Text.signed id

/-- Creates folders inside each other; `level` is the place of the first one. -/
def createAll (account : FolderAccount) (parent : Int) (level : Nat) : List Text → Session σ Int
  | [] => pure parent
  | name :: rest => do
    let id ← create account parent name
    Session.note .info (createdNote level name id)
    createAll account id (level + 1) rest

/-- Goes down from a folder; what is missing is created. -/
def descend (account : FolderAccount) (parent : Int) (level : Nat) : List Text → Session σ Int
  | [] => pure parent
  | name :: rest => do
    let found ← folders account parent
    match found.find? (·.key = Text.lower name) with
    | some f => descend account f.id (level + 1) rest
    | none => createAll account parent level (name :: rest)

def resolve (account : FolderAccount) (directory : Text) : Session σ Int :=
  descend account rootId 0 (segments directory)

/-! ### Files -/

def fileCode? : Json → Option Json
  | .array (first :: _) => (first.member? "file_code").filter (·.isPresent)
  | _ => none

/-- Sends a file to the server that the service names; it arrives outside all folders. -/
def store (account : FolderAccount) (fileName : Text) (content : Bytes)
    (contentType : Option Text) : Session σ Json := do
  let answer ← call account "upload/server" "get upload server" []
  match (answer.member? "result").filter (·.isPresent),
      (answer.member? "sess_id").filter (·.isPresent) with
  | some server, some sessionId =>
    let stored ← request "upload file" "POST" server
      (.upload [("sess_id", sessionId), ("utype", .text "prem")]
        ⟨"file_0", fileName, content, contentType⟩)
    match fileCode? stored with
    | some code => pure code
    | none => Session.fail (.storage (.unknownAnswer stored))
  | _, _ => Session.fail (.storage (.unknownAnswer answer))

def setFolder (account : FolderAccount) (code : Json) (folder : Int) : Session σ Unit := do
  let _ ← call account "file/set_folder" "set file folder"
    [("file_code", code), ("fld_id", .ofInt folder)]
  Session.note .info
    ("Folder " ++ Text.signed folder ++ " assigned to file " ++ code.display)

def upload (account : FolderAccount) (u : Upload) : Session σ Json := do
  let folder ← resolve account u.directory
  let code ← store account u.fileName u.content u.contentType
  if folder ≠ rootId then setFolder account code folder
  Session.note .info
    ("Image uploaded to FileLu successfully! " ++ u.directory ++ '/' :: u.fileName)
  return code

def askAccount (account : FolderAccount) : Session σ Json := do
  let action : Text := "validate credentials"
  checked action (← request action "POST" (.text (base ++ "account/info"))
    (.form [("key", .text account.apiKey)]))

def checkCredentials (account : FolderAccount) : Session σ Bool := do
  match ← Session.attempt (askAccount account) with
  | .ok _ => return true
  | .error f =>
    Session.note .error ("FileLu credential validation failed: " ++ f.message)
    return false

def client (account : FolderAccount) : StorageClient σ :=
  ⟨upload account, checkCredentials account⟩

end ImageFiling.FolderService
