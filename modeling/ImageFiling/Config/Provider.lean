import ImageFiling.Config.Reading

/-!
# Storage providers

A provider is one of three kinds of accounts, told apart by a tag: an account of the folder service
FileLu, a bucket of its object store, or a bucket of any other object store.
-/

namespace ImageFiling

def Text.isFilled (t : Text) : Bool := t.any (!isBlank ·)

/-- An account of the folder service. Its key is not blank. -/
structure FolderAccount where
  apiKey : Text
  apiKey_isFilled : Text.isFilled apiKey = true := by decide
  deriving DecidableEq, Repr

inductive BlankKey where
  | blankKey
  deriving DecidableEq, Repr

def BlankKey.message : BlankKey → Text
  | blankKey => "FileLu API key is mandatory."

def FolderAccount.ofKey (key : Text) : Except BlankKey FolderAccount :=
  if h : Text.isFilled key = true then .ok ⟨key, h⟩ else .error .blankKey

structure BucketAccess where
  accessId : Text
  secretKey : Text
  bucket : Text
  deriving DecidableEq, Repr

structure BucketAccount extends BucketAccess where
  host : Text
  region : Option Text := none
  pathStyle : Bool := false
  deriving DecidableEq, Repr

inductive Provider where
  | fileLu (account : FolderAccount)
  | fileLuS5 (access : BucketAccess)
  | awsS3 (account : BucketAccount)
  deriving DecidableEq, Repr

namespace Provider

def tag : Provider → Text
  | fileLu _ => "FileLu"
  | fileLuS5 _ => "FileLuS5"
  | awsS3 _ => "AwsS3"

def displayName : Provider → Text
  | fileLu _ => "FileLu"
  | fileLuS5 _ => "FileLu S5"
  | awsS3 _ => "S3 Compatible"

/-- The text after a beginning that is compared without regard to case, or the whole text. -/
def dropScheme (scheme t : Text) : Text :=
  if (t.take scheme.length).map Char.toLower = scheme then t.drop scheme.length else t

/-- The host of a text that may be an endpoint URL: the schemes are dropped, each once, and the
slashes at the end. -/
def hostOf (t : Text) : Text :=
  Text.trimEnd (· == '/') (dropScheme "http://" (dropScheme "https://" t))

end Provider

namespace Config.Read

def folderAccount (members : Json.Members) : Checked FolderAccount :=
  required members ⟨"apiKey", "api_key"⟩ fun v => do
    let key ← text v
    if h : Text.isFilled key = true then .ok ⟨key, h⟩ else fault .blankKey

def bucketAccess (members : Json.Members) : Checked BucketAccess :=
  ((required members ⟨"accessId", "access_id"⟩ text).both
    ((required members ⟨"secretKey", "secret_key"⟩ text).both
      (required members ⟨"bucketName", "bucket_name"⟩ text))).map
    fun (accessId, secretKey, bucket) => ⟨accessId, secretKey, bucket⟩

def bucketAccount (members : Json.Members) : Checked BucketAccount :=
  ((required members ⟨"accessId", "access_id"⟩ text).both
    ((required members ⟨"secretKey", "secret_key"⟩ text).both
      ((required members ⟨"hostName", "host_name"⟩ fun v => (text v).map Provider.hostOf).both
        ((required members ⟨"bucketName", "bucket_name"⟩ text).both
          ((optional members ⟨"region", "region"⟩ none (nullable text)).both
            (optional members ⟨"usePathStyle", "use_path_style"⟩ false bool)))))).map
    fun (accessId, secretKey, host, bucket, region, pathStyle) =>
      { accessId, secretKey, bucket, host, region, pathStyle }

/-- The members of a provider with this tag. -/
def tagged (members : Json.Members) (tag : Json) : Checked Provider :=
  match tag with
  | .text t =>
    if t = "FileLu" then Checked.under (.member t) ((folderAccount members).map Provider.fileLu)
    else if t = "FileLuS5" then
      Checked.under (.member t) ((bucketAccess members).map Provider.fileLuS5)
    else if t = "AwsS3" then Checked.under (.member t) ((bucketAccount members).map Provider.awsS3)
    else fault .unknownTag
  | _ => fault .unknownTag

def provider : Json → Checked Provider
  | .object members =>
    match Entries.get? members "type" with
    | some tag => tagged members tag
    | none => fault .noTag
  | _ => fault .notTagged

end Config.Read

/-! ### Writing -/

def Json.ofText? : Option Text → Json
  | some t => .text t
  | none => .null

def Provider.toJson (p : Provider) : Json :=
  .object <| ("type", .text p.tag) :: match p with
    | fileLu a => [("apiKey", .text a.apiKey)]
    | fileLuS5 a =>
      [("accessId", .text a.accessId), ("secretKey", .text a.secretKey),
        ("bucketName", .text a.bucket)]
    | awsS3 a =>
      [("accessId", .text a.accessId), ("secretKey", .text a.secretKey), ("hostName", .text a.host),
        ("bucketName", .text a.bucket), ("region", .ofText? a.region),
        ("usePathStyle", .bool a.pathStyle)]

end ImageFiling
