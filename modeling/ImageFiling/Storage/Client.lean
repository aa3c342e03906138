import ImageFiling.Session.Basic

/-!
# Storage clients

What every storage service can do: take a file, and tell whether the credentials are valid.
-/

namespace ImageFiling

structure Upload where
  directory : Text
  fileName : Text
  content : Bytes
  contentType : Option Text
  description : Option Text
  deriving DecidableEq, Repr

structure StorageClient (σ : Type) where
  upload : Upload → Session σ Json
  /-- Whether the service accepts the credentials. It does not fail, but writes to the log. -/
  checkCredentials : Session σ Bool

end ImageFiling
