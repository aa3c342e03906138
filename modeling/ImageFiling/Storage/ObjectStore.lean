import ImageFiling.Config.Provider
import ImageFiling.Mime.Basic
import ImageFiling.Storage.Client
import ImageFiling.Xml.Document

/-!
# Object stores

A client of a store that keeps files as objects in buckets, under keys without directories. Requests
are signed.
-/

namespace ImageFiling

structure ObjectStore where
  host : Text
  bucket : Text
  pathStyle : Bool
  signer : SignatureV4.Signer
  digests : SignatureV4.Digests := SignatureV4.sha256

namespace ObjectStore

variable {σ : Type}

def ofAccount (a : BucketAccount) : ObjectStore :=
  { host := a.host, bucket := a.bucket, pathStyle := a.pathStyle
    signer := ⟨a.accessId, a.secretKey, SignatureV4.regionOf a.region, "s3"⟩ }

def ofAccess (a : BucketAccess) : ObjectStore :=
  ofAccount { a with host := "s5lu.com", region := some "global", pathStyle := true }

/-! ### Keys -/

def collapseSlashes : Text → Text
  | '/' :: '/' :: r => collapseSlashes ('/' :: r)
  | c :: r => c :: collapseSlashes r
  | [] => []

/-- The key of a file: directory and name without leading, trailing and doubled slashes. -/
def objectKey (directory fileName : Text) : Text :=
  let isSlash (c : Char) : Bool := c == '/'
  Text.trim isSlash (collapseSlashes (Text.trim isSlash directory ++ '/' :: fileName))

def isPathChar (c : Char) : Bool := Percent.isUnreserved c || c == '/'

/-- The URL of the object with a key: the bucket stands in the path or before the host. -/
def objectUrl (s : ObjectStore) (key : Text) : Text :=
  let path := Percent.encode isPathChar key
  if s.pathStyle then "https://" ++ s.host ++ '/' :: s.bucket ++ '/' :: path
  else "https://" ++ s.bucket ++ '.' :: s.host ++ '/' :: path

/-! ### Answers -/

/-- The message that the store gives with a failure, or the whole body. -/
def errorMessage (body : Text) : Text :=
  match Xml.parse? body with
  | none => body
  | some root =>
    let messages :=
      if "Error".toList.isSuffixOf root.name then root.named "Message"
      else (root.inside.filter (·.name = "Error".toList)).flatMap (·.named "Message")
    match messages.head?.map (·.text) with
    | some (c :: message) => c :: message
    | _ => body

def bucketNames (root : Xml.Element) : List Text :=
  ((root.along ["Buckets", "Bucket", "Name"]).map (·.text)).filter (!·.isEmpty)

/-! ### Requests -/

/-- The body that is sent for a content; an empty content is sent as no body. -/
def bodyOf (content : Bytes) : Option Bytes := if content.isEmpty then none else some content

def send (s : ObjectStore) (method url : Text) (headers : Entries Text) (content : Bytes) :
    Session σ Http.Response := do
  let now ← Session.now
  let signed ← Session.lift .signing
    (SignatureV4.sign s.digests s.signer method url headers content { now with utcOffset := .ok 0 })
  match ← Session.send ⟨method, .text url, .body signed (bodyOf content)⟩ with
  | .refused reason => Session.fail (.storage (.connection reason))
  | .raised reason => Session.fail (.raised reason)
  | .response r => return r

def listUrl (s : ObjectStore) : Text := "https://" ++ s.host ++ "/?x-id=ListBuckets"

def listBuckets (s : ObjectStore) : Session σ (List Text) := do
  let r ← s.send "GET" s.listUrl [] []
  if !r.isOk then
    Session.fail (.storage (.status "list buckets" r.status (errorMessage r.text)))
  else match Xml.parse? r.text with
    | some root => return bucketNames root
    | none => Session.fail (.storage .unreadableBuckets)

/-- The headers that describe a file. A description outside ASCII is percent-encoded. -/
def fileHeaders (u : Upload) : Entries Text :=
  let type := match u.contentType with
    | some (c :: t) => c :: t
    | _ => Mime.binary
  ("Content-Type".toList, type) :: match u.description with
    | some (c :: t) =>
      let d := c :: t
      [("x-amz-meta-description",
        if d.all (·.toNat < 128) then d else Percent.encode isPathChar d)]
    | _ => []

def upload (s : ObjectStore) (u : Upload) : Session σ Json := do
  let key := objectKey u.directory u.fileName
  Session.note .info
    ("Uploading " ++ Text.numeral u.content.length ++ " bytes to s3://" ++ s.bucket ++ '/' :: key ++
      "...")
  let r ← s.send "PUT" (s.objectUrl key) (fileHeaders u) u.content
  if !r.isOk then
    Session.fail (.storage (.status "upload file" r.status (errorMessage r.text)))
  else do
    Session.note .info
      ("Image uploaded to bucket '" ++ s.bucket ++ "' successfully! " ++ key)
    return .text key

def checkCredentials (s : ObjectStore) : Session σ Bool := do
  match ← Session.attempt (s.send "GET" s.listUrl [] []) with
  | .ok r =>
    if r.isOk then return true
    else do
      Session.note .error
        ("S3 credential validation failed (HTTP " ++ Text.signed r.status ++ "): " ++
          errorMessage r.text)
      return false
  | .error f => do
    Session.note .error ("S3 credential validation failed: " ++ f.message)
    return false

def client (s : ObjectStore) : StorageClient σ := ⟨s.upload, s.checkCredentials⟩

end ObjectStore

end ImageFiling
