import ImageFiling.Proofs.Command.Causes

/-!
# Reports of commands

The program ends with a report of status 0 or 1, unless it fails for a cause that has no name. With
status 0 an image is saved only if the client has taken the upload, and a pattern is checked in vain
exactly if a number in it is too long or the URL cannot be cut (`start_reports_unless_unreported`).
-/

namespace ImageFiling

namespace Command

open Session

variable {σ : Type} {h : Host} {s : Surroundings} {i : Invocation} {w : World σ} {t : σ}
  {f : Failure}

/-! ### Statuses -/

theorem runSave_ok {source : Text} (page : Page) {report : Report}
    (action : i.action = .save source page.url page.title)
    (ends : (runSave s i.config source page w t).result = .ok report) :
    report.status = 1 ∨ (report.status = 0 ∧ ∃ provider u t' id, Uploads s i w t provider u t' ∧
      (provider.client.upload u w t').result = .ok (.text id)) := by
  obtain ⟨config, read, ends⟩ := bind_result_ok ends
  rw [loadConfig_state] at ends
  obtain ⟨provider, opened, ends⟩ := bind_result_ok ends
  rw [openProvider_result] at opened
  rw [openProvider_state] at ends
  cases provider with
  | none =>
    cases ends
    exact .inl rfl
  | some provider =>
    obtain ⟨image, found, ends⟩ := bind_result_ok ends
    obtain ⟨saved, saves, ends⟩ := bind_result_ok ends
    cases ends
    obtain ⟨d, placed, uploaded⟩ := Saving.save_plain_ok rfl saves
    have configured : Configured s i w t config := ⟨by rw [action]; rfl, read⟩
    exact .inr ⟨rfl, provider, _, _, saved.remoteId,
      .intro configured (Except.ok.inj opened) (.intro action found rfl) placed, uploaded⟩

theorem perform_status {report : Report} (ends : (perform s i w t).result = .ok report) :
    report.status = 0 ∨ report.status = 1 := by
  unfold perform at ends
  cases action : i.action with
  | save image page title =>
    rw [action] at ends
    rcases runSave_ok ⟨page, title⟩ action ends with one | ⟨zero, -⟩
    · exact .inr one
    · exact .inl zero
  | validate =>
    rw [action] at ends
    obtain ⟨config, -, ends⟩ := bind_result_ok ends
    obtain ⟨provider, -, ends⟩ := bind_result_ok ends
    cases provider with
    | none =>
      cases ends
      exact .inr rfl
    | some provider =>
      obtain ⟨valid, -, ends⟩ := bind_result_ok ends
      cases valid with
      | true =>
        cases ends
        exact .inl rfl
      | false =>
        cases ends
        exact .inr rfl
  | checkPattern pattern url isDirectory =>
    rw [action] at ends
    obtain ⟨now, -, ends⟩ := bind_result_ok ends
    obtain ⟨line, -, ends⟩ := bind_result_ok ends
    cases ends
    exact .inl rfl
  | matchUrl url =>
    rw [action] at ends
    obtain ⟨config, -, ends⟩ := bind_result_ok ends
    cases found : Naming.findTemplate? config.templates url with
    | none =>
      simp only [found] at ends
      cases ends
      exact .inr rfl
    | some first =>
      simp only [found] at ends
      cases ends
      exact .inl rfl

/-! ### The program -/

/-- A run ends as the command does, but with a report of a failure that is told. -/
theorem run_result (s : Surroundings) (i : Invocation) (w : World σ) (t : σ) :
    (∀ report, (perform s i w t).result = .ok report → (run s i w t).result = .ok report) ∧
    ∀ f, (perform s i w t).result = .error f →
      (f.IsReported ∧ (run s i w t).result = .ok ⟨1, [], "Error: " ++ f.message ++ ['\n']⟩) ∨
      (¬ f.IsReported ∧ (run s i w t).result = .error f) := by
  unfold run
  rw [attempt_bind_result]
  constructor
  · intro report ends
    rw [ends]
    rfl
  · intro f failed
    rw [failed]
    dsimp only
    cases name : f.kind.name? with
    | none => exact .inr ⟨by simp [Failure.IsReported, name], rfl⟩
    | some n => exact .inl ⟨by simp [Failure.IsReported, name], rfl⟩

theorem run_ok {report : Report} (ends : (run s i w t).result = .ok report) :
    (perform s i w t).result = .ok report ∨ report.status = 1 := by
  obtain ⟨ended, failed⟩ := run_result s i w t
  cases performed : (perform s i w t).result with
  | ok report' =>
    cases (ended _ performed).symm.trans ends
    exact .inl rfl
  | error f =>
    rcases failed f performed with ⟨-, told⟩ | ⟨-, untold⟩
    · cases told.symm.trans ends
      exact .inr rfl
    · cases untold.symm.trans ends

theorem run_error (ends : (run s i w t).result = .error f) :
    (perform s i w t).result = .error f ∧ ¬ f.IsReported := by
  obtain ⟨ended, failed⟩ := run_result s i w t
  cases performed : (perform s i w t).result with
  | ok report => cases (ended _ performed).symm.trans ends
  | error f' =>
    rcases failed f' performed with ⟨-, told⟩ | ⟨unreported, untold⟩
    · cases told.symm.trans ends
    · cases untold.symm.trans ends
      exact ⟨rfl, unreported⟩

theorem checkPattern_ok {pattern url line : Text} {isDirectory : Bool}
    (action : i.action = .checkPattern pattern url isDirectory)
    (previewed : Naming.preview (checkedField isDirectory) pattern url (w.clock t) = .ok line) :
    (run s i w t).result = .ok (done line) := by
  refine (run_result s i w t).1 _ ?_
  unfold perform
  rw [action]
  change (runCheckPattern pattern url isDirectory w t).result = _
  rw [runCheckPattern_result, previewed]
  rfl

theorem checkPattern_error {pattern url : Text} {isDirectory : Bool} {e : NamingFault}
    (action : i.action = .checkPattern pattern url isDirectory)
    (failed : Naming.preview (checkedField isDirectory) pattern url (w.clock t) = .error e) :
    (e.IsNamed ∧ ∃ report, (run s i w t).result = .ok report) ∨
      (¬ e.IsNamed ∧ (run s i w t).result = .error (.naming e)) := by
  have performed : (perform s i w t).result = .error (.naming e) := by
    unfold perform
    rw [action]
    change (runCheckPattern pattern url isDirectory w t).result = _
    rw [runCheckPattern_result, failed]
    rfl
  rw [← NamingFault.isReported_iff]
  rcases (run_result s i w t).2 _ performed with ⟨told, reported⟩ | ⟨untold, unreported⟩
  · exact .inl ⟨told, _, reported⟩
  · exact .inr ⟨untold, unreported⟩

theorem checkPattern_error_iff {pattern url : Text} {isDirectory : Bool} {o : Int}
    (action : i.action = .checkPattern pattern url isDirectory)
    (told : (w.clock t).utcOffset = .ok o) :
    (∃ f, (run s i w t).result = .error f) ↔
      (∃ n, Naming.patternFault? (checkedField isDirectory) pattern = .error n) ∨
      (Naming.patternFault? (checkedField isDirectory) pattern = .ok none ∧
        ∃ e, Url.split url = .error e) := by
  rw [← Naming.preview_unnamed_iff (checkedField_ne isDirectory) told]
  cases previewed : Naming.preview (checkedField isDirectory) pattern url (w.clock t) with
  | ok line => simp [checkPattern_ok action previewed]
  | error e =>
    rcases checkPattern_error (s := s) action previewed with
      ⟨named, report, reported⟩ | ⟨unnamed, unreported⟩
    · simp [reported, named]
    · simp [unreported, unnamed]

/-! ### The start -/

theorem prepare_ok {settings : Settings} {logging : Logging}
    (read : Settings.read h.environment h.files h.home = .ok settings)
    (logged : Logging.ofSettings settings h.files = .ok logging) :
    h.prepare = .ok (settings, logging) := by
  unfold Host.prepare
  rw [read]
  change (Logging.ofSettings settings h.files).mapError Failure.logging >>= _ = _
  rw [logged]
  rfl

theorem start_of_prepared {settings : Settings} {logging : Logging}
    (ready : h.prepare = .ok (settings, logging)) :
    start h i w t = run ⟨settings, h.files⟩ i w t :=
  lift_bind ready _

theorem start_of_unprepared (failed : h.prepare = .error f) :
    start h i w t = ⟨.error f, t, [], []⟩ := by
  unfold start
  rw [failed]
  rfl

theorem start_ok {report : Report} (ends : (start h i w t).result = .ok report) :
    ∃ settings logging, h.prepare = .ok (settings, logging) ∧
      (run ⟨settings, h.files⟩ i w t).result = .ok report := by
  cases ready : h.prepare with
  | error f =>
    rw [start_of_unprepared ready] at ends
    cases ends
  | ok prepared =>
    rw [start_of_prepared ready] at ends
    exact ⟨prepared.1, prepared.2, rfl, ends⟩

theorem start_error (ends : (start h i w t).result = .error f) :
    h.prepare = .error f ∨ ∃ settings logging, h.prepare = .ok (settings, logging) ∧
      (run ⟨settings, h.files⟩ i w t).result = .error f := by
  cases ready : h.prepare with
  | error f' =>
    rw [start_of_unprepared ready] at ends
    exact .inl (congrArg Except.error (Except.error.inj ends))
  | ok prepared =>
    rw [start_of_prepared ready] at ends
    exact .inr ⟨prepared.1, prepared.2, rfl, ends⟩

/-- The program ends with a report of status 0 or 1, or with a failure of a kind without a name, and
then for one of the listed causes. Saving has status 0 only if the client has taken the upload. Once
the program runs commands, and without a fault of the clock, checking a pattern fails exactly if a
number in the pattern is too long, or if the pattern is accepted and the URL cannot be cut. -/
theorem start_reports_unless_unreported (h : Host) (i : Invocation) (w : World σ) (t : σ) :
    (∀ report, (start h i w t).result = .ok report → report.status = 0 ∨ report.status = 1) ∧
    (∀ image page title report, i.action = .save image page title →
      (start h i w t).result = .ok report → report.status = 0 →
      ∃ settings logging provider u t' id, h.prepare = .ok (settings, logging) ∧
        Uploads ⟨settings, h.files⟩ i w t provider u t' ∧
        (provider.client.upload u w t').result = .ok (.text id)) ∧
    (∀ f, (start h i w t).result = .error f → f.kind.name? = none ∧
      (Unprepared h f ∨ ∃ settings logging, h.prepare = .ok (settings, logging) ∧
        Unreported ⟨settings, h.files⟩ i w t f)) ∧
    ∀ pattern url isDirectory prepared o, i.action = .checkPattern pattern url isDirectory →
      h.prepare = .ok prepared → (w.clock t).utcOffset = .ok o →
      ((∃ f, (start h i w t).result = .error f) ↔
        (∃ n, Naming.patternFault? (checkedField isDirectory) pattern = .error n) ∨
        (Naming.patternFault? (checkedField isDirectory) pattern = .ok none ∧
          ∃ e, Url.split url = .error e)) := by
  refine ⟨?_, ?_, ?_, ?_⟩
  · intro report ends
    obtain ⟨settings, logging, -, ends⟩ := start_ok ends
    rcases run_ok ends with performed | one
    · exact perform_status performed
    · exact .inr one
  · intro image page title report action ends zero
    obtain ⟨settings, logging, ready, ends⟩ := start_ok ends
    rcases run_ok ends with performed | one
    · unfold perform at performed
      rw [action] at performed
      rcases runSave_ok ⟨page, title⟩ action performed with
        one | ⟨-, provider, u, t', id, uploaded⟩
      · cases zero.symm.trans one
      · exact ⟨settings, logging, provider, u, t', id, ready, uploaded⟩
    · cases zero.symm.trans one
  · intro f ends
    rcases start_error ends with failed | ⟨settings, logging, ready, ends⟩
    · have unprepared := prepare_error failed
      exact ⟨name_of_not_isReported unprepared.not_isReported, .inl unprepared⟩
    · obtain ⟨performed, unreported⟩ := run_error ends
      exact ⟨name_of_not_isReported unreported,
        .inr ⟨settings, logging, ready, (perform_error performed).resolve_left unreported⟩⟩
  · rintro pattern url isDirectory ⟨settings, logging⟩ o action ready told
    rw [start_of_prepared ready]
    exact checkPattern_error_iff action told

/-- A URL with a bracket that is not closed ends the check of an accepted pattern. -/
theorem open_bracket_not_reported :
    let host : Host := ⟨[], ⟨[]⟩, FilePath.parse "/"⟩
    let noon : Moment := ⟨⟨2024, 2, 29⟩, 12, 0, 0, 0, .ok 0⟩
    ∃ f, (start host ⟨none, .checkPattern "\x7btitle\x7d" "http://[" false⟩
      (World.scripted noon) []).result = .error f ∧ f.kind = .value := by
  intro host noon
  have unnamed : Naming.preview .fileName "\x7btitle\x7d" "http://[" noon =
      .error (.url .brackets) := by
    decide +kernel
  let settings : Settings := ⟨"INFO", FilePath.parse "wic-config.json", FilePath.parse "/"⟩
  have read : Settings.read [] ⟨[]⟩ host.home = .ok settings := by decide +kernel
  have logged : Logging.ofSettings settings ⟨[]⟩ =
      .ok ⟨.info, some (FilePath.parse "/wic.log")⟩ := by
    decide +kernel
  refine ⟨.naming (.url .brackets), ?_, rfl⟩
  rw [start_of_prepared (prepare_ok read logged)]
  have ended := checkPattern_error (s := ⟨settings, host.files⟩)
    (i := ⟨none, .checkPattern "\x7btitle\x7d" "http://[" false⟩) (w := World.scripted noon) (t := [])
    rfl unnamed
  rcases ended with ⟨named, -⟩ | ⟨-, unreported⟩
  · rcases named with template | resolution
    · cases template
    · cases resolution
  · exact unreported

end Command

end ImageFiling
