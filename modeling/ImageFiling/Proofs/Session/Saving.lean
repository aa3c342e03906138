import ImageFiling.Proofs.Image.Size
import ImageFiling.Proofs.Naming.Destination
import ImageFiling.Proofs.Result
import ImageFiling.Proofs.Session.Run
import ImageFiling.Session.Saving

/-!
# Stages of saving

An image is named, made ready for the upload, and filed. Each stage has an equation for what a run
of it is in a world that may answer anything, with a client and a cipher that may do anything.
-/

namespace ImageFiling.Saving

open Session Naming

variable {σ : Type}

/-! ### Stages -/

/-- Where an image of a page goes that is saved at a time. -/
def place (templates : List Template) (page : Page) (image : Image) (now : Moment) :
    Except NamingFault Destination :=
  destination templates ⟨page.url, page.title, now, .fileName⟩ image.mime

/-- What is told of an upload, for the answer of the client. -/
def told (d : Destination) (e : Encryption σ) (u : Upload) : Json → Except Failure Saved
  | .text remoteId => .ok ⟨remoteId, u.directory, u.fileName, d.isMatched, (passwordFor d e).isSome⟩
  | _ => .error .remoteId

/-- The end of saving, from the upload on. -/
def filed (client : StorageClient σ) (d : Destination) (e : Encryption σ) (u : Upload) :
    Session σ Saved :=
  store client d u >>= fun answer => ended (told d e u answer)

/-- Saving once the place is known. -/
def saveTo (client : StorageClient σ) (d : Destination) (image : Image) (e : Encryption σ) :
    Session σ Saved :=
  uploadFor d image e >>= filed client d e

variable {client : StorageClient σ} {templates : List Template} {page : Page} {image : Image}
  {e : Encryption σ} {now : Option Moment} {w : World σ} {s : σ} {d : Destination} {u : Upload}
  {password : Text} {cipher : Cipher σ}

theorem save_eq : save client templates page image e now w s =
    (lift .naming (place templates page image (now.getD (w.clock s))) >>= fun d =>
      saveTo client d image e) w s := by
  have ending (d : Destination) (u : Upload) : filed client d e u = (do
      match ← store client d u with
      | .text remoteId =>
        return ⟨remoteId, u.directory, u.fileName, d.isMatched, (passwordFor d e).isSome⟩
      | _ => fail .remoteId) := by
    unfold filed
    congr 1
    funext answer
    cases answer <;> rfl
  unfold saveTo
  simp only [funext (ending _)]
  cases now <;> rfl

theorem save_unplaced {f : NamingFault}
    (unplaced : place templates page image (now.getD (w.clock s)) = .error f) :
    save client templates page image e now w s = ⟨.error (.naming f), s, [], []⟩ := by
  rw [save_eq, unplaced]
  rfl

theorem save_placed (placed : place templates page image (now.getD (w.clock s)) = .ok d) :
    save client templates page image e now w s = saveTo client d image e w s := by
  rw [save_eq, lift_bind placed]

/-! ### The upload -/

theorem passwordFor_eq_some :
    passwordFor d e = some password ↔
      d.encryption = true ∧ e.password = some password ∧ password ≠ [] := by
  unfold passwordFor
  split
  · next asked => simp [asked, Option.filter_eq_some_iff]
  · next unasked => simp [unasked]

def unencryptedNote : LogEntry :=
  ⟨.warning,
    "The matched template asks for encryption but no password was given, saving unencrypted."⟩

theorem uploadFor_plain (none : passwordFor d e = none) :
    uploadFor d image e w s =
      ⟨.ok (plainUpload d image), s, [], if d.encryption then [unencryptedNote] else []⟩ := by
  unfold uploadFor
  rw [none]
  dsimp only
  split <;> rfl

theorem uploadFor_noCipher (given : passwordFor d e = some password) (none : e.cipher = none) :
    uploadFor d image e = fail .noCipher := by
  unfold uploadFor
  rw [given, none]

/-- The upload of an image that is encrypted. -/
def sealedUpload (d : Destination) (secret : Bytes) : Upload where
  directory := d.directory
  fileName := d.fileName ++ d.extension ++ encryptedEnding
  content := secret
  contentType := some Mime.binary
  description := d.description

theorem uploadFor_cipher (given : passwordFor d e = some password)
    (available : e.cipher = some cipher) :
    uploadFor d image e =
      cipher password image.content >>= fun secret => pure (sealedUpload d secret) := by
  unfold uploadFor
  rw [given, available]
  rfl

/-! ### Filing -/

def sizeNote (u : Upload) (size : Text) : LogEntry :=
  ⟨.info, "Saving image (" ++ size ++ ") as " ++ u.directory ++ '/' :: u.fileName ++ "..."⟩

def storedNotes (d : Destination) (u : Upload) : Except Failure Json → List LogEntry
  | .ok _ => [storedNote d u]
  | .error _ => []

theorem store_measured {size : Text}
    (measured : Size.text (some (.int u.content.length)) = .ok size) :
    store client d u w s =
      let run := client.upload u w s
      ⟨run.result, run.state, run.sent,
        sizeNote u size :: run.log ++ storedNotes d u run.result⟩ := by
  have start : store client d u w s =
      (note .info (sizeNote u size).message >>= fun _ => client.upload u >>= fun answer =>
        note (storedNote d u).level (storedNote d u).message >>= fun _ => pure answer) w s := by
    unfold store
    rw [lift_bind measured]
    rfl
  rw [start, note_bind]
  cases outcome : (client.upload u w s).result with
  | error f =>
    rw [bind_of_error outcome]
    simp [outcome, sizeNote, storedNotes]
  | ok answer =>
    rw [bind_of_ok outcome, note_bind]
    simp [outcome, sizeNote, storedNotes, pure, ended]

theorem filed_measured {size : Text}
    (measured : Size.text (some (.int u.content.length)) = .ok size) :
    filed client d e u w s =
      let run := client.upload u w s
      ⟨run.result >>= told d e u, run.state, run.sent,
        sizeNote u size :: run.log ++ storedNotes d u run.result⟩ := by
  unfold filed
  rw [bind_ended, store_measured measured]

theorem filed_unmeasured {f : Size.Fault}
    (unmeasured : Size.text (some (.int u.content.length)) = .error f) :
    filed client d e u w s = ⟨.error (.size f), s, [], []⟩ := by
  unfold filed store
  rw [unmeasured]
  rfl

theorem told_eq_ok {answer : Json} {saved : Saved} (read : told d e u answer = .ok saved) :
    answer = .text saved.remoteId ∧
      saved = ⟨saved.remoteId, u.directory, u.fileName, d.isMatched, (passwordFor d e).isSome⟩ := by
  cases answer <;> cases read
  exact ⟨rfl, rfl⟩

theorem told_eq_error {answer : Json} {f : Failure} (refused : told d e u answer = .error f) :
    f = .remoteId ∧ ∀ id, answer ≠ .text id := by
  cases answer with
  | text id => cases refused
  | _ =>
    cases refused
    simp

theorem filed_ok {saved : Saved} (ends : (filed client d e u w s).result = .ok saved) :
    (client.upload u w s).result = .ok (.text saved.remoteId) ∧
      saved = ⟨saved.remoteId, u.directory, u.fileName, d.isMatched, (passwordFor d e).isSome⟩ := by
  cases measured : Size.text (some (.int u.content.length)) with
  | error f =>
    rw [filed_unmeasured measured] at ends
    cases ends
  | ok size =>
    rw [filed_measured measured] at ends
    obtain ⟨answer, uploaded, read⟩ := bind_eq_ok.mp ends
    obtain ⟨rfl, place⟩ := told_eq_ok read
    exact ⟨uploaded, place⟩

theorem filed_error {f : Failure} (failed : (filed client d e u w s).result = .error f) :
    (∃ fault, f = .size fault ∧ 2 ^ 63 ≤ u.content.length) ∨
    (client.upload u w s).result = .error f ∨
    (f = .remoteId ∧ ∃ answer, (client.upload u w s).result = .ok answer ∧
      ∀ id, answer ≠ .text id) := by
  cases measured : Size.text (some (.int u.content.length)) with
  | error fault =>
    rw [filed_unmeasured measured] at failed
    cases failed
    exact .inl ⟨fault, rfl, Size.large_of_text_error measured⟩
  | ok size =>
    rw [filed_measured measured] at failed
    rcases bind_eq_error.mp failed with refused | ⟨answer, uploaded, read⟩
    · exact .inr (.inl refused)
    · obtain ⟨rfl, other⟩ := told_eq_error read
      exact .inr (.inr ⟨rfl, answer, uploaded, other⟩)

/-! ### Saving without a password -/

theorem saveTo_plain (none : passwordFor d e = none) :
    (saveTo client d image e w s).result = (filed client d e (plainUpload d image) w s).result := by
  have plain : uploadFor d image e w s = _ := uploadFor_plain none
  rw [saveTo, bind_of_ok (by rw [plain]), plain]

theorem passwordFor_of_none (free : e.password = none) : passwordFor d e = none := by
  unfold passwordFor
  rw [free]
  split <;> rfl

theorem save_plain_ok {saved : Saved} (free : e.password = none)
    (ends : (save client templates page image e now w s).result = .ok saved) :
    ∃ d, place templates page image (now.getD (w.clock s)) = .ok d ∧
      (client.upload (plainUpload d image) w s).result = .ok (.text saved.remoteId) := by
  cases placed : place templates page image (now.getD (w.clock s)) with
  | error f =>
    rw [save_unplaced placed] at ends
    cases ends
  | ok d =>
    rw [save_placed placed, saveTo_plain (passwordFor_of_none free)] at ends
    exact ⟨d, rfl, (filed_ok ends).1⟩

theorem save_plain_error {f : Failure} (free : e.password = none)
    (failed : (save client templates page image e now w s).result = .error f) :
    (∃ fault, f = .naming fault ∧
      place templates page image (now.getD (w.clock s)) = .error fault) ∨
    ∃ d, place templates page image (now.getD (w.clock s)) = .ok d ∧
      (filed client d e (plainUpload d image) w s).result = .error f := by
  cases placed : place templates page image (now.getD (w.clock s)) with
  | error fault =>
    rw [save_unplaced placed] at failed
    cases failed
    exact .inl ⟨fault, rfl, rfl⟩
  | ok d =>
    rw [save_placed placed, saveTo_plain (passwordFor_of_none free)] at failed
    exact .inr ⟨d, rfl, failed⟩

end ImageFiling.Saving
