import ImageFiling.Proofs.Session.Recording
import ImageFiling.Proofs.Session.Saving

/-!
# What is handed to the storage client

When an image is saved, the calls of the cipher and of the storage client are put on record. A
content that was to be encrypted never reaches the client as it was, and the client is called once
at most (`save_encrypts_or_warns`).
-/

namespace ImageFiling

open Session Naming

variable {σ : Type}

/-- What saving asks the cipher and the storage client for. -/
inductive Call where
  | encryption (password : Text) (content : Bytes)
  | upload (u : Upload)
  | credentials
  deriving DecidableEq, Repr

def Call.isUpload : Call → Bool
  | upload _ => true
  | _ => false

def StorageClient.recorded (client : StorageClient σ) : StorageClient (σ × List Call) where
  upload u := Session.recorded (.upload u) (client.upload u)
  checkCredentials := Session.recorded .credentials client.checkCredentials

def Encryption.recorded (e : Encryption σ) : Encryption (σ × List Call) where
  cipher := e.cipher.map fun cipher password content =>
    Session.recorded (.encryption password content) (cipher password content)
  password := e.password

namespace Saving

variable {client : StorageClient σ} {image : Image} {e : Encryption σ} {w : World σ} {s : σ}
  {d : Destination} {u : Upload} {password : Text}

/-! ### Calls of the stages -/

/-- The calls upload this, and nothing else, unless it is too large for its size to be told. -/
def Uploads (calls : List Call) (u : Upload) : Prop :=
  calls = [.upload u] ∨ (2 ^ 63 ≤ u.content.length ∧ calls = [])

/-- The calls by which an image is made ready for the upload. -/
def preparation (d : Destination) (image : Image) (e : Encryption σ) : List Call :=
  match passwordFor d e, e.cipher with
  | some password, some _ => [.encryption password image.content]
  | _, _ => []

theorem uploadFor_records (d : Destination) (image : Image) (e : Encryption σ) (w : World σ)
    (s : σ) :
    Records (uploadFor d image e.recorded) (uploadFor d image e) w s (preparation d image e) := by
  unfold preparation
  cases given : passwordFor d e with
  | none =>
    intro record
    rw [uploadFor_plain given, uploadFor_plain (e := e.recorded) given, List.append_nil]
  | some password =>
    cases available : e.cipher with
    | none =>
      have available' : e.recorded.cipher = none := by rw [Encryption.recorded, available]; rfl
      rw [uploadFor_noCipher given available, uploadFor_noCipher (e := e.recorded) given available']
      exact ended_records _
    | some cipher =>
      have available' : e.recorded.cipher = some fun password content =>
          Session.recorded (.encryption password content) (cipher password content) := by
        rw [Encryption.recorded, available]
        rfl
      rw [uploadFor_cipher given available, uploadFor_cipher (e := e.recorded) given available']
      have called := recorded_records (w := w) (s := s) (Call.encryption password image.content)
        (cipher password image.content)
      cases outcome : (cipher password image.content w s).result with
      | error f => exact called.bind_error outcome
      | ok secret => exact called.bind outcome (ended_records _)

theorem filed_records (client : StorageClient σ) (d : Destination) (e : Encryption σ) (u : Upload)
    (w : World σ) (s : σ) :
    ∃ calls, Records (filed client.recorded d e.recorded u) (filed client d e u) w s calls ∧
      Uploads calls u ∧ ∀ saved, (filed client d e u w s).result = .ok saved →
        calls = [.upload u] ∧ ∃ id, saved =
          ⟨id, u.directory, u.fileName, d.isMatched, (passwordFor d e).isSome⟩ := by
  cases measured : Size.text (some (.int u.content.length)) with
  | error f =>
    refine ⟨[], ?_, .inr ⟨Size.large_of_text_error measured, rfl⟩, ?_⟩
    · intro record
      rw [filed_unmeasured measured, filed_unmeasured measured, List.append_nil]
    · intro saved ends
      rw [filed_unmeasured measured] at ends
      cases ends
  | ok size =>
    refine ⟨[.upload u], ?_, .inl rfl, ?_⟩
    · intro record
      rw [filed_measured measured, filed_measured measured]
      rfl
    · intro saved ends
      exact ⟨rfl, _, (filed_ok ends).2⟩

/-- What is called to save an image to a place after the calls that prepare it: its upload, if it
could be prepared. -/
structure Follows (client : StorageClient σ) (d : Destination) (image : Image) (e : Encryption σ)
    (w : World σ) (s : σ) (uploads : List Call) : Prop where
  records : Records (saveTo client.recorded d image e.recorded) (saveTo client d image e) w s
    (preparation d image e ++ uploads)
  unready : ∀ f, (uploadFor d image e w s).result = .error f →
    uploads = [] ∧ (saveTo client d image e w s).result = .error f
  ready : ∀ u, (uploadFor d image e w s).result = .ok u → Uploads uploads u
  returned : ∀ u saved, (uploadFor d image e w s).result = .ok u →
    (saveTo client d image e w s).result = .ok saved → uploads = [.upload u] ∧
      ∃ id, saved = ⟨id, u.directory, u.fileName, d.isMatched, (passwordFor d e).isSome⟩

theorem exists_follows (client : StorageClient σ) (d : Destination) (image : Image)
    (e : Encryption σ) (w : World σ) (s : σ) : ∃ uploads, Follows client d image e w s uploads := by
  have prepared := uploadFor_records d image e w s
  cases ready : (uploadFor d image e w s).result with
  | error f =>
    refine ⟨[], ?_, ?_, ?_, ?_⟩
    · rw [List.append_nil]
      exact prepared.bind_error ready
    · intro f' failed
      cases ready.symm.trans failed
      rw [saveTo, bind_of_error ready]
      exact ⟨rfl, rfl⟩
    · intro u prepares
      cases ready.symm.trans prepares
    · intro u saved prepares
      cases ready.symm.trans prepares
  | ok u =>
    obtain ⟨uploads, records, uploaded, returned⟩ :=
      filed_records client d e u w (uploadFor d image e w s).state
    refine ⟨uploads, prepared.bind ready records, ?_, ?_, ?_⟩
    · intro f failed
      cases ready.symm.trans failed
    · intro u' prepares
      cases ready.symm.trans prepares
      exact uploaded
    · intro u' saved prepares ends
      cases ready.symm.trans prepares
      rw [saveTo, bind_of_ok ready] at ends
      exact returned saved ends

/-! ### Which upload it is -/

theorem mimeOf_eq (image : Image) :
    mimeOf image = (image.mime.filter (!·.isEmpty)).getD "application/octet-stream" := by
  unfold mimeOf
  split
  · next c t typed => simp [typed, Option.filter]
  · next untyped =>
    cases typed : image.mime with
    | none => rfl
    | some t =>
      cases t with
      | nil => rfl
      | cons c t => exact (untyped c t typed).elim

theorem passwordFor_given (asked : d.encryption = true) (given : e.password.getD [] ≠ []) :
    passwordFor d e = some (e.password.getD []) := by
  rw [passwordFor_eq_some]
  refine ⟨asked, ?_, given⟩
  cases password : e.password with
  | none =>
    rw [password] at given
    exact (given rfl).elim
  | some p => rfl

theorem passwordFor_none (free : d.encryption = false ∨ e.password.getD [] = []) :
    passwordFor d e = none := by
  cases given : passwordFor d e with
  | none => rfl
  | some p =>
    obtain ⟨asked, password, nonempty⟩ := passwordFor_eq_some.mp given
    rcases free with unasked | empty
    · rw [asked] at unasked
      cases unasked
    · rw [password] at empty
      exact (nonempty empty).elim

/-! ### Calls and results, case by case -/

theorem preparation_none (none : passwordFor d e = none) : preparation d image e = [] := by
  rw [preparation, none]

theorem preparation_cipher {cipher : Cipher σ} (given : passwordFor d e = some password)
    (available : e.cipher = some cipher) :
    preparation d image e = [.encryption password image.content] := by
  rw [preparation, given, available]

theorem preparation_noCipher (none : e.cipher = none) : preparation d image e = [] := by
  rw [preparation, none]
  split
  · next impossible => cases impossible
  · rfl

theorem uploadFor_cipher_error {cipher : Cipher σ} {f : Failure}
    (given : passwordFor d e = some password) (available : e.cipher = some cipher)
    (failed : (cipher password image.content w s).result = .error f) :
    (uploadFor d image e w s).result = .error f := by
  rw [uploadFor_cipher given available, bind_of_error failed]

theorem uploadFor_cipher_ok {cipher : Cipher σ} {secret : Bytes}
    (given : passwordFor d e = some password) (available : e.cipher = some cipher)
    (ends : (cipher password image.content w s).result = .ok secret) :
    (uploadFor d image e w s).result = .ok (sealedUpload d secret) := by
  rw [uploadFor_cipher given available, bind_of_ok ends]
  rfl

/-- What is logged after an image is ready is logged by storing it. -/
theorem saveTo_log (ready : (uploadFor d image e w s).result = .ok u) :
    (saveTo client d image e w s).log = (uploadFor d image e w s).log ++
      (store client d u w (uploadFor d image e w s).state).log := by
  rw [saveTo, bind_of_ok ready, filed, bind_ended]

theorem encrypted_iff (ready : (uploadFor d image e w s).result = .ok u) :
    (passwordFor d e).isSome = true ↔ ∃ p c, Call.encryption p c ∈ preparation d image e := by
  unfold preparation
  cases given : passwordFor d e with
  | none => simp
  | some p =>
    cases available : e.cipher with
    | none =>
      rw [uploadFor_noCipher given available] at ready
      cases ready
    | some cipher => simp

variable {uploads : List Call}

theorem Follows.count_le (follows : Follows client d image e w s uploads) :
    ((preparation d image e ++ uploads).filter Call.isUpload).length ≤ 1 := by
  have none : (preparation d image e).filter Call.isUpload = [] := by
    unfold preparation
    split <;> rfl
  rw [List.filter_append, none, List.nil_append]
  cases prepared : (uploadFor d image e w s).result with
  | error f =>
    obtain ⟨rfl, -⟩ := follows.unready f prepared
    exact Nat.zero_le _
  | ok u =>
    rcases follows.ready u prepared with rfl | ⟨-, rfl⟩
    · exact Nat.le_refl _
    · exact Nat.zero_le _

/-- With a password, the client gets what the cipher makes of the content, or nothing. -/
theorem Follows.encrypted (follows : Follows client d image e w s uploads)
    (given : passwordFor d e = some password) :
    (e.cipher = none → preparation d image e ++ uploads = [] ∧
      (saveTo client d image e w s).result = .error .noCipher) ∧
    ∀ cipher, e.cipher = some cipher →
      (∀ f, (cipher password image.content w s).result = .error f →
        preparation d image e ++ uploads = [.encryption password image.content] ∧
          (saveTo client d image e w s).result = .error f) ∧
      ∀ secret, (cipher password image.content w s).result = .ok secret →
        preparation d image e ++ uploads = .encryption password image.content :: uploads ∧
          Uploads uploads (sealedUpload d secret) := by
  constructor
  · intro none
    have failed : (uploadFor d image e w s).result = .error .noCipher := by
      rw [uploadFor_noCipher given none]
      rfl
    obtain ⟨rfl, result⟩ := follows.unready _ failed
    exact ⟨by rw [preparation_noCipher none, List.append_nil], result⟩
  · intro cipher available
    rw [preparation_cipher given available]
    constructor
    · intro f failed
      obtain ⟨rfl, result⟩ := follows.unready f (uploadFor_cipher_error given available failed)
      exact ⟨rfl, result⟩
    · intro secret ends
      exact ⟨rfl, follows.ready _ (uploadFor_cipher_ok given available ends)⟩

/-- Without a password the content is uploaded as it is. -/
theorem Follows.plain (follows : Follows client d image e w s uploads)
    (none : passwordFor d e = none) :
    Uploads (preparation d image e ++ uploads) (plainUpload d image) ∧
      (saveTo client d image e w s).log =
        (if d.encryption then [unencryptedNote] else []) ++
          (store client d (plainUpload d image) w s).log := by
  have plain : uploadFor d image e w s = _ := uploadFor_plain none
  have prepared : (uploadFor d image e w s).result = .ok (plainUpload d image) := by rw [plain]
  constructor
  · rw [preparation_none none]
    exact follows.ready _ prepared
  · rw [saveTo_log prepared, plain]

/-- What is returned tells of the upload, and of whether the cipher was called. -/
theorem Follows.told (follows : Follows client d image e w s uploads) {saved : Saved}
    (ends : (saveTo client d image e w s).result = .ok saved) :
    ∃ u, .upload u ∈ preparation d image e ++ uploads ∧ saved.directory = u.directory ∧
      saved.fileName = u.fileName ∧ (saved.encrypted = true ↔
        ∃ p c, Call.encryption p c ∈ preparation d image e ++ uploads) := by
  cases prepared : (uploadFor d image e w s).result with
  | error f => cases ends.symm.trans (follows.unready f prepared).2
  | ok u =>
    obtain ⟨rfl, id, rfl⟩ := follows.returned u saved prepared ends
    refine ⟨u, by simp, rfl, rfl, ?_⟩
    rw [encrypted_iff prepared]
    simp

/-- Saving an image does the same with its calls on record as without. The client is asked for one
upload at most, and for none if the image cannot be named. If the template in force asks for
encryption and a password is given, the cipher is called once, with the password and the content,
and what is uploaded is its answer; without a cipher, or if it fails, nothing is. Otherwise the
content is uploaded as it is, after a warning if encryption was asked for. What is returned tells of
the upload. -/
theorem save_encrypts_or_warns (client : StorageClient σ) (templates : List Template) (page : Page)
    (image : Image) (e : Encryption σ) (now : Option Moment) (w : World σ) (s : σ) :
    let run := save client templates page image e now w s
    let beside := save client.recorded templates page image e.recorded now w.withRecord (s, [])
    let calls := beside.state.2
    let named := destination templates
      ⟨page.url, page.title, now.getD (w.clock s), .fileName⟩ image.mime
    let asks := (inForce? templates page.url).any Template.encryption
    let password := e.password.getD []
    beside = ⟨run.result, (run.state, calls), run.sent, run.log⟩ ∧
    (calls.filter Call.isUpload).length ≤ 1 ∧
    (∀ f, named = .error f → calls = [] ∧ run.result = .error (.naming f)) ∧
    (∀ d, named = .ok d → asks = true → password ≠ [] →
      (e.cipher = none → calls = [] ∧ run.result = .error .noCipher ∧
        Failure.noCipher.kind = .permanent) ∧
      ∀ cipher, e.cipher = some cipher →
        (∀ f, (cipher password image.content w s).result = .error f →
          calls = [.encryption password image.content] ∧ run.result = .error f) ∧
        ∀ secret, (cipher password image.content w s).result = .ok secret →
          ∃ uploads, calls = .encryption password image.content :: uploads ∧
            Uploads uploads ⟨d.directory, d.fileName ++ d.extension ++ ".enc", secret,
              some "application/octet-stream", d.description⟩) ∧
    (∀ d, named = .ok d → asks = false ∨ password = [] →
      ∃ u : Upload, u = ⟨d.directory, d.fileName ++ d.extension, image.content,
          some ((image.mime.filter (!·.isEmpty)).getD "application/octet-stream"), d.description⟩ ∧
        Uploads calls u ∧
        (asks = true → run.log = unencryptedNote :: (store client d u w s).log)) ∧
    ∀ saved, run.result = .ok saved → ∃ u, .upload u ∈ calls ∧ saved.directory = u.directory ∧
      saved.fileName = u.fileName ∧
      (saved.encrypted = true ↔ ∃ p c, Call.encryption p c ∈ calls) := by
  dsimp only
  -- The clock beside the record is that of the world, so both runs name the image alike.
  cases placed : place templates page image (now.getD (w.clock s)) with
  | error f =>
    have unplaced :
        place templates page image (now.getD (w.withRecord.clock (s, ([] : List Call)))) =
          .error f := placed
    rw [save_unplaced placed, save_unplaced unplaced]
    refine ⟨rfl, Nat.zero_le _, ?_, ?_, ?_, ?_⟩
    · intro f' unnamed
      cases placed.symm.trans unnamed
      exact ⟨rfl, rfl⟩
    · intro d named
      cases placed.symm.trans named
    · intro d named
      cases placed.symm.trans named
    · intro saved ends
      cases ends
  | ok d =>
    have placed' :
        place templates page image (now.getD (w.withRecord.clock (s, ([] : List Call)))) =
          .ok d := placed
    rw [save_placed placed, save_placed placed']
    obtain ⟨parts, -, arranged⟩ := destination_arranged placed
    obtain ⟨uploads, follows⟩ := exists_follows client d image e w s
    have beside := follows.records []
    rw [List.nil_append] at beside
    rw [beside, ← arranged.encryption]
    refine ⟨rfl, follows.count_le, ?_, ?_, ?_, fun saved ends => follows.told ends⟩
    · intro f unnamed
      cases placed.symm.trans unnamed
    · intro d' named asked given
      cases placed.symm.trans named
      obtain ⟨unavailable, available⟩ := follows.encrypted (passwordFor_given asked given)
      refine ⟨fun none => ?_, fun cipher some => ⟨(available cipher some).1, ?_⟩⟩
      · exact ⟨(unavailable none).1, (unavailable none).2, rfl⟩
      · intro secret ends
        exact ⟨uploads, (available cipher some).2 secret ends⟩
    · intro d' named free
      cases placed.symm.trans named
      obtain ⟨uploaded, logged⟩ := follows.plain (passwordFor_none free)
      refine ⟨plainUpload d image, by rw [plainUpload, mimeOf_eq], uploaded, ?_⟩
      intro asked
      rw [logged, if_pos asked]
      rfl

end Saving

end ImageFiling
