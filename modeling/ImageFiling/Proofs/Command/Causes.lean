import ImageFiling.Command.Run
import ImageFiling.Proofs.Files.Lookup
import ImageFiling.Proofs.Naming.Faults
import ImageFiling.Proofs.Session.Saving
import ImageFiling.Proofs.Storage.UploadFaults

/-!
# Failures without a name

A command that fails is told of by name, unless it fails for one of the causes that `Unreported`
lists: each lies in the arguments, the files, the configuration, the clock, or a reply. `Unprepared`
lists what keeps the program from running a command at all.
-/

namespace ImageFiling

/-- A failure that is told to the user. -/
def Failure.IsReported (f : Failure) : Prop := f.kind.name? ≠ none

theorem name_of_not_isReported {f : Failure} (untold : ¬ f.IsReported) : f.kind.name? = none := by
  by_contra named
  exact untold named

theorem Failure.IsOfUpload.isReported {f : Failure} (told : f.IsOfUpload) : f.IsReported := by
  unfold Failure.IsReported
  rcases told with upload | network
  · rw [upload]
    decide
  · rw [network]
    decide

theorem NamingFault.isReported_iff {f : NamingFault} :
    (Failure.naming f).IsReported ↔ f.IsNamed := by
  change f.kind.name? ≠ none ↔ f.IsNamed
  unfold NamingFault.IsNamed
  cases f with
  | time e => cases e <;> decide
  | _ => simp [NamingFault.kind, FailureKind.name?]

theorem ImageFault.isReported (f : ImageFault) : (Failure.image f).IsReported := by
  change (if f.isTransient then FailureKind.transient else .permanent).name? ≠ none
  split <;> decide

theorem ConfigFault.isReported (f : ConfigFault) : (Failure.config f).IsReported := by
  change FailureKind.config.name? ≠ none
  decide

namespace Command

open Session

variable {σ : Type} {s : Surroundings} {i : Invocation} {w : World σ} {t : σ} {f : Failure}

/-! ### Steps of the commands -/

theorem loadConfig_error {asked : Option Text}
    (failed : (loadConfig s asked w t).result = .error f) :
    f.IsReported ∨ ∃ e, f = .file e ∧ s.files.Blocked (configPath s asked) e := by
  rcases bind_result_error failed with unsaved | ⟨v, -, invalid⟩
  · rcases bind_result_error unsaved with unfound | ⟨read, -, later⟩
    · obtain ⟨e, stopped, rfl⟩ := lift_error unfound
      exact .inr ⟨e, rfl, Files.file?_error stopped⟩
    · match read, later with
      | none, later => cases later
      | some (.error e), later =>
        cases later
        exact .inl (ConfigFault.isReported _)
      | some (.ok content), later =>
        cases document : Config.document? content with
        | none =>
          simp only [document] at later
          cases later
          exact .inl (ConfigFault.isReported _)
        | some v =>
          simp only [document] at later
          cases later
  · obtain ⟨issues, -, rfl⟩ := lift_error invalid
    exact .inl (ConfigFault.isReported _)

theorem loadConfig_state (asked : Option Text) : (loadConfig s asked w t).state = t := by
  refine bind_state (bind_state rfl fun read => ?_) fun v => rfl
  match read with
  | none => rfl
  | some (.error e) => rfl
  | some (.ok content) =>
    dsimp only
    cases Config.document? content <;> rfl

@[simp] theorem openProvider_result (config : Config) :
    (config.openProvider w t).result = .ok config.provider := by
  unfold Config.openProvider
  cases config.provider <;> rfl

@[simp] theorem openProvider_state (config : Config) : (config.openProvider w t).state = t := by
  unfold Config.openProvider
  cases config.provider <;> rfl

theorem image_error {source : Text} {page : Option Text}
    (failed : (Source.image s.files source page w t).result = .error f) :
    f.IsReported ∨ (∃ e, f = .file e ∧ s.files.Unread (FilePath.parse source) e) ∨
      ∃ reason, f = .raised reason ∧
        (w.serve ⟨"GET", .text source, .headers (Download.headers page)⟩ t).1 = .raised reason := by
  unfold Source.image at failed
  split at failed
  · obtain ⟨e, -, rfl⟩ := lift_error failed
    exact .inl e.isReported
  split at failed
  · unfold Download.image at failed
    rw [note_bind] at failed
    rcases bind_result_error failed with never | ⟨reply, served, later⟩
    · cases never
    · cases reply with
      | refused reason =>
        cases later
        exact .inl (ImageFault.isReported _)
      | response r =>
        dsimp only at later
        split at later
        · cases later
        · cases later
          exact .inl (ImageFault.isReported _)
      | raised reason =>
        cases later
        exact .inr (.inr ⟨reason, rfl, Except.ok.inj served⟩)
  split at failed
  · cases failed
    exact .inl (ImageFault.isReported _)
  · rcases bind_result_error failed with unfound | ⟨content, -, later⟩
    · obtain ⟨e, unread, rfl⟩ := lift_error unfound
      exact .inr (.inl ⟨e, rfl, Files.content?_error unread⟩)
    · cases content with
      | none =>
        cases later
        exact .inl (ImageFault.isReported _)
      | some content => cases later

theorem folderCredentials_ok (account : FolderAccount) :
    ∃ b, (FolderService.checkCredentials account w t).result = .ok b := by
  unfold FolderService.checkCredentials
  rw [attempt_bind_result]
  cases (FolderService.askAccount account w t).result with
  | ok answer => exact ⟨true, rfl⟩
  | error e => exact ⟨false, rfl⟩

theorem storeCredentials_ok (store : ObjectStore) :
    ∃ b, (store.checkCredentials w t).result = .ok b := by
  unfold ObjectStore.checkCredentials
  rw [attempt_bind_result]
  cases (store.send "GET" store.listUrl [] [] w t).result with
  | ok r =>
    dsimp only
    split
    · exact ⟨true, rfl⟩
    · exact ⟨false, rfl⟩
  | error e => exact ⟨false, rfl⟩

theorem checkCredentials_ok (p : Provider) :
    ∃ b, (p.client.checkCredentials w t).result = .ok b := by
  cases p with
  | fileLu account => exact folderCredentials_ok account
  | fileLuS5 a => exact storeCredentials_ok _
  | awsS3 a => exact storeCredentials_ok _

/-! ### Causes without a name -/

def Action.usesConfig : Action → Bool
  | .checkPattern _ _ _ => false
  | _ => true

/-- A configuration is the one that a command uses. -/
def Configured (s : Surroundings) (i : Invocation) (w : World σ) (t : σ) (config : Config) : Prop :=
  i.action.usesConfig = true ∧ (loadConfig s i.config w t).result = .ok config

/-- A pattern that a command fills. -/
inductive Fills (s : Surroundings) (i : Invocation) (w : World σ) (t : σ) (pattern : Text) :
    Prop where
  | argument {url : Text} {isDirectory : Bool}
      (action : i.action = .checkPattern pattern url isDirectory) : Fills s i w t pattern
  | template {config : Config} (configured : Configured s i w t config)
      (member : Naming.PatternOf config.templates pattern) : Fills s i w t pattern

/-- The image that a command saves for a page is there, and the world in a state. -/
inductive Loads (s : Surroundings) (i : Invocation) (w : World σ) (t : σ) (page : Page)
    (image : Image) (t' : σ) : Prop where
  | intro {source : Text} (action : i.action = .save source page.url page.title)
      (found : (Source.image s.files source (some page.url) w t).result = .ok image)
      (after : (Source.image s.files source (some page.url) w t).state = t')

/-- A command forms names for a page, at a time. -/
inductive Names (s : Surroundings) (i : Invocation) (w : World σ) (t : σ) (c : Naming.Context) :
    Prop where
  | sample {pattern : Text} {isDirectory : Bool}
      (action : i.action = .checkPattern pattern c.url isDirectory) (now : c.now = w.clock t) :
      Names s i w t c
  | saving {page : Page} {image : Image} {t' : σ} (loads : Loads s i w t page image t')
      (url : c.url = page.url) (now : c.now = w.clock t') : Names s i w t c

/-- The upload of a command that saves an image: who gets it, what, and in which state of the
world. -/
inductive Uploads (s : Surroundings) (i : Invocation) (w : World σ) (t : σ) (provider : Provider) :
    Upload → σ → Prop where
  | intro {config : Config} {page : Page} {image : Image} {d : Destination} {t' : σ}
      (configured : Configured s i w t config) (chosen : config.provider = some provider)
      (loads : Loads s i w t page image t')
      (placed : Saving.place config.templates page image (w.clock t') = .ok d) :
      Uploads s i w t provider (Saving.plainUpload d image) t'

/-- What is behind a failure that is not told. -/
inductive Unreported (s : Surroundings) (i : Invocation) (w : World σ) (t : σ) :
    Failure → Prop where
  /-- The path of the configuration file cannot be looked up. -/
  | configPath {e : FileFault} (uses : i.action.usesConfig = true)
      (blocked : s.files.Blocked (configPath s i.config) e) : Unreported s i w t (.file e)
  /-- The image file cannot be looked up or read. -/
  | imageFile {source page title : Text} {e : FileFault} (action : i.action = .save source page title)
      (unread : s.files.Unread (FilePath.parse source) e) : Unreported s i w t (.file e)
  /-- The library ends the download in a way of its own. -/
  | download {source page title reason : Text} (action : i.action = .save source page title)
      (ended : (w.serve ⟨"GET", .text source, .headers (Download.headers (some page))⟩ t).1 =
        .raised reason) : Unreported s i w t (.raised reason)
  /-- The URL of the page cannot be cut, the local zone cannot be told, or a pattern holds a number
  that is too long. -/
  | naming {c : Naming.Context} {e : NamingFault} (names : Names s i w t c)
      (unnamed : Naming.Unnamed c (Fills s i w t) e) : Unreported s i w t (.naming e)
  /-- The content is too long to be told by its size. -/
  | size {provider : Provider} {u : Upload} {t' : σ} {e : Size.Fault}
      (uploads : Uploads s i w t provider u t') (large : 2 ^ 63 ≤ u.content.length) :
      Unreported s i w t (.size e)
  /-- A new folder gets an infinite id, a request cannot be signed, or the library ends it in a way of
  its own. -/
  | upload {provider : Provider} {u : Upload} {t' : σ} {f : Failure}
      (uploads : Uploads s i w t provider u t') (untold : provider.Untold u w t' f) :
      Unreported s i w t f
  /-- The folder service names the file by a code that is no text. -/
  | fileCode {account : FolderAccount} {u : Upload} {t' : σ} {code : Json}
      (uploads : Uploads s i w t (.fileLu account) u t')
      (stored : (FolderService.upload account u w t').result = .ok code)
      (other : ∀ id, code ≠ .text id) : Unreported s i w t .remoteId

/-! ### Commands -/

theorem unloaded_unreported (uses : i.action.usesConfig = true)
    (failed : (loadConfig s i.config w t).result = .error f) :
    f.IsReported ∨ Unreported s i w t f := by
  rcases loadConfig_error failed with told | ⟨e, rfl, blocked⟩
  · exact .inl told
  · exact .inr (.configPath uses blocked)

theorem filed_unreported {provider : Provider} {d : Destination} {u : Upload} {t' : σ}
    (uploads : Uploads s i w t provider u t')
    (failed : (Saving.filed provider.client d {} u w t').result = .error f) :
    f.IsReported ∨ Unreported s i w t f := by
  rcases Saving.filed_error failed with ⟨e, rfl, large⟩ | refused | ⟨rfl, answer, stored, other⟩
  · exact .inr (.size uploads large)
  · rcases Provider.upload_error refused with told | untold
    · exact .inl told.isReported
    · exact .inr (.upload uploads untold)
  · rcases Provider.upload_ok stored with ⟨id, rfl⟩ | ⟨account, rfl, filed⟩
    · exact (other id rfl).elim
    · exact .inr (.fileCode uploads filed other)

theorem unsaved_unreported {page : Page} {config : Config} {provider : Provider} {image : Image}
    {t' : σ} (configured : Configured s i w t config) (chosen : config.provider = some provider)
    (loads : Loads s i w t page image t')
    (failed : (Saving.save provider.client config.templates page image {} none w t').result =
      .error f) : f.IsReported ∨ Unreported s i w t f := by
  rcases Saving.save_plain_error rfl failed with ⟨e, rfl, unplaced⟩ | ⟨d, placed, failed⟩
  · rcases Naming.destination_unnamed unplaced with named | unnamed
    · exact .inl (NamingFault.isReported_iff.mpr named)
    · have filled : Naming.Unnamed ⟨page.url, page.title, w.clock t', .fileName⟩ (Fills s i w t) e :=
        unnamed.mono fun p used => .template configured used
      exact .inr (.naming (.saving loads rfl rfl) filled)
  · exact filed_unreported (.intro configured chosen loads placed) failed

theorem runSave_error {source : Text} (page : Page)
    (action : i.action = .save source page.url page.title)
    (failed : (runSave s i.config source page w t).result = .error f) :
    f.IsReported ∨ Unreported s i w t f := by
  have uses : i.action.usesConfig = true := by
    rw [action]
    rfl
  rcases bind_result_error failed with unloaded | ⟨config, read, failed⟩
  · exact unloaded_unreported uses unloaded
  have configured : Configured s i w t config := ⟨uses, read⟩
  rw [loadConfig_state] at failed
  rcases bind_result_error failed with never | ⟨provider, opened, failed⟩
  · simp at never
  rw [openProvider_result] at opened
  rw [openProvider_state] at failed
  cases provider with
  | none => cases failed
  | some provider =>
    rcases bind_result_error failed with unfound | ⟨image, found, failed⟩
    · rcases image_error unfound with told | ⟨e, rfl, unread⟩ | ⟨reason, rfl, ended⟩
      · exact .inl told
      · exact .inr (.imageFile action unread)
      · exact .inr (.download action ended)
    rcases bind_result_error failed with unsaved | ⟨saved, -, never⟩
    · exact unsaved_unreported configured (Except.ok.inj opened) (.intro action found rfl) unsaved
    · cases never

theorem runValidate_error (action : i.action = .validate)
    (failed : (runValidate s i.config w t).result = .error f) :
    f.IsReported ∨ Unreported s i w t f := by
  rcases bind_result_error failed with unloaded | ⟨config, -, failed⟩
  · exact unloaded_unreported (by rw [action]; rfl) unloaded
  rcases bind_result_error failed with never | ⟨provider, -, failed⟩
  · simp at never
  cases provider with
  | none => cases failed
  | some provider =>
    rcases bind_result_error failed with never | ⟨valid, -, failed⟩
    · obtain ⟨b, checked⟩ := checkCredentials_ok (w := w)
        (t := (config.openProvider w (loadConfig s i.config w t).state).state) provider
      cases checked.symm.trans never
    · cases valid <;> cases failed

theorem runMatchUrl_error {url : Text} (action : i.action = .matchUrl url)
    (failed : (runMatchUrl s i.config url w t).result = .error f) :
    f.IsReported ∨ Unreported s i w t f := by
  rcases bind_result_error failed with unloaded | ⟨config, -, failed⟩
  · exact unloaded_unreported (by rw [action]; rfl) unloaded
  · cases found : Naming.findTemplate? config.templates url with
    | none =>
      simp only [found] at failed
      cases failed
    | some first =>
      simp only [found] at failed
      cases failed

/-- The field for which a pattern is checked. -/
def checkedField (isDirectory : Bool) : TemplateField :=
  if isDirectory then .directory else .fileName

theorem checkedField_ne (isDirectory : Bool) : checkedField isDirectory ≠ .description := by
  cases isDirectory <;> decide

theorem runCheckPattern_result (pattern url : Text) (isDirectory : Bool) :
    (runCheckPattern pattern url isDirectory w t).result =
      ((Naming.preview (checkedField isDirectory) pattern url (w.clock t)).mapError .naming).map
        done := by
  unfold runCheckPattern
  rw [now_bind]
  change ((lift .naming (Naming.preview (checkedField isDirectory) pattern url (w.clock t)) >>=
    fun line => pure (done line)) w t).result = _
  cases previewed : Naming.preview (checkedField isDirectory) pattern url (w.clock t) with
  | ok line => rfl
  | error e => rfl

theorem runCheckPattern_error {pattern url : Text} {isDirectory : Bool}
    (action : i.action = .checkPattern pattern url isDirectory)
    (failed : (runCheckPattern pattern url isDirectory w t).result = .error f) :
    f.IsReported ∨ Unreported s i w t f := by
  rw [runCheckPattern_result] at failed
  obtain ⟨e, previewed, rfl⟩ := mapError_eq_error.mp (map_eq_error.mp failed)
  rcases Naming.preview_unnamed (checkedField_ne isDirectory) previewed with named | unnamed
  · exact .inl (NamingFault.isReported_iff.mpr named)
  · have filled : Naming.Unnamed ⟨url, Naming.sampleTitle, w.clock t, checkedField isDirectory⟩
        (Fills s i w t) e := by
      refine unnamed.mono ?_
      rintro p rfl
      exact .argument action
    exact .inr (.naming (.sample action rfl) filled)

theorem perform_error (failed : (perform s i w t).result = .error f) :
    f.IsReported ∨ Unreported s i w t f := by
  unfold perform at failed
  cases action : i.action with
  | save image page title =>
    rw [action] at failed
    exact runSave_error ⟨page, title⟩ action failed
  | validate =>
    rw [action] at failed
    exact runValidate_error action failed
  | checkPattern pattern url isDirectory =>
    rw [action] at failed
    exact runCheckPattern_error action failed
  | matchUrl url =>
    rw [action] at failed
    exact runMatchUrl_error action failed

/-! ### The start -/

variable {h : Host}

/-- What keeps the program from running a command: the file `.env` cannot be read or is no text, or
the log cannot be set up. -/
inductive Unprepared (h : Host) : Failure → Prop where
  | envFile {e : FileFault} (unread : h.files.Unread Settings.envPath e) :
    Unprepared h (.settings (.file e))
  | envText {content : Bytes} (found : h.files.content? Settings.envPath = .ok (some content))
    (undecoded : Utf8.decode? content = none) : Unprepared h (.settings .notUtf8)
  | level {s : Settings} (read : Settings.read h.environment h.files h.home = .ok s)
    (unknown : LogLevel.named.lookup (Text.upper s.logLevel) = none) :
    Unprepared h (.logging (.unknownLevel (Text.upper s.logLevel)))
  | logPath {s : Settings} (read : Settings.read h.environment h.files h.home = .ok s)
    (holds : s.logFile.text.contains '\x00' = true) : Unprepared h (.logging .nullInPath)

theorem settings_error {e : SettingsFault}
    (failed : Settings.read h.environment h.files h.home = .error e) :
    Unprepared h (.settings e) := by
  rcases bind_eq_error.mp failed with unread | ⟨values, -, never⟩
  · rcases bind_eq_error.mp unread with unfound | ⟨content, found, undecoded⟩
    · obtain ⟨fault, stopped, rfl⟩ := mapError_eq_error.mp unfound
      exact .envFile (Files.content?_error stopped)
    · cases content with
      | none => cases undecoded
      | some content =>
        dsimp only at undecoded
        split at undecoded
        · cases undecoded
        · next none =>
          cases undecoded
          exact .envText (mapError_eq_ok.mp found) none
  · cases never

theorem logging_error {settings : Settings} {e : LoggingFault}
    (read : Settings.read h.environment h.files h.home = .ok settings)
    (failed : Logging.ofSettings settings h.files = .error e) : Unprepared h (.logging e) := by
  unfold Logging.ofSettings at failed
  dsimp only at failed
  split at failed
  · next unknown =>
    cases failed
    exact .level read unknown
  · split at failed
    · next holds =>
      cases failed
      exact .logPath read holds
    · cases failed

theorem prepare_error (failed : h.prepare = .error f) : Unprepared h f := by
  rcases bind_eq_error.mp failed with unread | ⟨settings, read, later⟩
  · obtain ⟨e, missing, rfl⟩ := mapError_eq_error.mp unread
    exact settings_error missing
  · rcases bind_eq_error.mp later with unlogged | ⟨logging, -, never⟩
    · obtain ⟨e, missing, rfl⟩ := mapError_eq_error.mp unlogged
      exact logging_error (mapError_eq_ok.mp read) missing
    · cases never

theorem Unprepared.not_isReported (unprepared : Unprepared h f) : ¬ f.IsReported := by
  intro told
  cases unprepared <;> exact told rfl

end Command

end ImageFiling
