import ImageFiling.Image.Download
import ImageFiling.Image.Size
import ImageFiling.Naming.Destination
import ImageFiling.Storage.Client

/-!
# Saving an image

An image is named by the templates, encrypted if the template asks for it and a password is given,
and handed to the storage client once.
-/

namespace ImageFiling

structure Page where
  url : Text
  title : Text
  deriving DecidableEq, Repr

/-- What encrypts a content with a password. It is a session of its own, which may fail. -/
abbrev Cipher (σ : Type) := Text → Bytes → Session σ Bytes

/-- How an image is encrypted: what can encrypt, if anything, and the password, if one is given. -/
structure Encryption (σ : Type) where
  cipher : Option (Cipher σ) := none
  password : Option Text := none

structure Saved where
  remoteId : Text
  directory : Text
  fileName : Text
  isMatched : Bool
  encrypted : Bool
  deriving DecidableEq, Repr

namespace Saving

variable {σ : Type}

def encryptedEnding : Text := ".enc"

def mimeOf (image : Image) : Text :=
  match image.mime with
  | some (c :: t) => c :: t
  | _ => Mime.binary

/-- The password, if encryption is asked for and one is given. -/
def passwordFor (d : Destination) (e : Encryption σ) : Option Text :=
  if d.encryption then e.password.filter (!·.isEmpty) else none

def plainUpload (d : Destination) (image : Image) : Upload :=
  { directory := d.directory
    fileName := d.fileName ++ d.extension
    content := image.content
    contentType := some (mimeOf image)
    description := d.description }

def uploadFor (d : Destination) (image : Image) (e : Encryption σ) : Session σ Upload := do
  let plain := plainUpload d image
  match passwordFor d e with
  | some password =>
    match e.cipher with
    | none => Session.fail .noCipher
    | some cipher =>
      let content ← cipher password image.content
      return { plain with content, fileName := plain.fileName ++ encryptedEnding
                          contentType := some Mime.binary }
  | none =>
    if d.encryption then
      Session.note .warning
        "The matched template asks for encryption but no password was given, saving unencrypted."
    return plain

def storedNote (d : Destination) (u : Upload) : LogEntry :=
  let place := u.directory ++ '/' :: u.fileName
  if d.isMatched then ⟨.info, "Image saved: " ++ place⟩
  else ⟨.warning, "No template matched and image saved to default path: " ++ place⟩

def store (client : StorageClient σ) (d : Destination) (u : Upload) : Session σ Json := do
  let size ← Session.lift .size (Size.text (some (.int u.content.length)))
  Session.note .info
    ("Saving image (" ++ size ++ ") as " ++ u.directory ++ '/' :: u.fileName ++ "...")
  let remoteId ← client.upload u
  let note := storedNote d u
  Session.note note.level note.message
  return remoteId

/-- Saves an image of a page. Without a time given it is named by the clock. -/
def save (client : StorageClient σ) (templates : List Template) (page : Page) (image : Image)
    (e : Encryption σ) (now : Option Moment) : Session σ Saved := do
  let now ← match now with
    | some m => pure m
    | none => Session.now
  let d ← Session.lift .naming
    (Naming.destination templates ⟨page.url, page.title, now, .fileName⟩ image.mime)
  let u ← uploadFor d image e
  match ← store client d u with
  | .text remoteId =>
    return ⟨remoteId, u.directory, u.fileName, d.isMatched, (passwordFor d e).isSome⟩
  | _ => Session.fail .remoteId

end Saving

end ImageFiling
