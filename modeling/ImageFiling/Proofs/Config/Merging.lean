import ImageFiling.Config.File
import ImageFiling.Proofs.Config.Reading
import ImageFiling.Proofs.Files.Lookup
import ImageFiling.Proofs.Session.Run
import ImageFiling.Proofs.Text.Entries
import Mathlib.Tactic.Choose

/-!
# Settings over defaults

The members of a file are set over defaults by name, while settings are read by either of two names.
A setting of the file prevails unless it is masked: set under its other name where the defaults have
its first one (`ofJson_merge`, `load_over_defaults`).
-/

namespace ImageFiling

/-! ### Names in objects that were read -/

namespace Json

theorem not_object_of_readScalar {t rest : Text} {v : Json} (read : readScalar t = some (v, rest))
    (members : Members) : v ≠ .object members := by
  unfold readScalar at read
  split at read
  · next found word =>
    cases read
    obtain ⟨⟨name, v'⟩, listed, taken⟩ := List.exists_of_findSome?_eq_some word
    obtain ⟨_, -, same⟩ := Option.map_eq_some_iff.mp taken
    cases same
    simp only [words, List.mem_cons, Prod.mk.injEq, List.not_mem_nil, or_false] at listed
    rcases listed with ⟨-, rfl⟩ | ⟨-, rfl⟩ | ⟨-, rfl⟩ | ⟨-, rfl⟩ | ⟨-, rfl⟩ | ⟨-, rfl⟩ <;> nofun
  · obtain ⟨_, -, same⟩ := Option.map_eq_some_iff.mp read
    cases same
    nofun

theorem distinct_of_readValue {fuel : Nat} {t rest : Text} {members : Members}
    (read : readValue fuel t = some (.object members, rest)) :
    (members.map Prod.fst).Nodup := by
  cases fuel with
  | zero => cases read
  | succ fuel =>
    unfold readValue at read
    split at read
    · obtain ⟨_, -, same⟩ := Option.map_eq_some_iff.mp read
      cases same
    · split at read
      · cases read
      · obtain ⟨_, -, same⟩ := Option.map_eq_some_iff.mp read
        cases same
    · split at read
      · cases read
        exact List.nodup_nil
      · obtain ⟨_, -, same⟩ := Option.map_eq_some_iff.mp read
        cases same
        exact Entries.nodup_putAll [] _ List.nodup_nil
    · exact absurd rfl (not_object_of_readScalar read members)

theorem distinct_of_parse? {t : Text} {members : Members}
    (parsed : parse? t = some (.object members)) : (members.map Prod.fst).Nodup := by
  obtain ⟨⟨v, rest⟩, read, ends⟩ := Option.bind_eq_some_iff.mp parsed
  obtain ⟨-, same⟩ := Option.ite_none_right_eq_some.mp ends
  cases same
  exact distinct_of_readValue read

end Json

namespace Config

/-! ### Masked settings -/

namespace Setting

/-- Members say something of a setting, under either name. -/
def IsSet (s : Setting) (members : Json.Members) : Prop := (s.names.value? members).isSome

instance (s : Setting) (members : Json.Members) : Decidable (s.IsSet members) :=
  inferInstanceAs (Decidable ((s.names.value? members).isSome = true))

/-- A setting is set under its other name only, and defaults have its first one. -/
structure IsMasked (s : Setting) (defaults members : Json.Members) : Prop where
  set : s.IsSet members
  unnamed : Entries.get? members s.names.name = none
  preset : (Entries.get? defaults s.names.name).isSome

variable {s : Setting} {defaults members : Json.Members}

/-- A setting that is not masked is read from the members as if there were no defaults. -/
theorem readIn_putAll_of_set (distinct : (members.map Prod.fst).Nodup) (set : s.IsSet members)
    (unmasked : ¬ s.IsMasked defaults members) :
    s.readIn (Entries.putAll defaults members) = s.readIn members := by
  unfold readIn Read.FieldName.value?
  rw [Entries.get?_putAll defaults distinct, Entries.get?_putAll defaults distinct]
  cases named : Entries.get? members s.names.name with
  | some v => rfl
  | none =>
    -- Set under its other name: no default may stand under the first one, which counts before it.
    have unpreset : Entries.get? defaults s.names.name = none := by
      rw [← Option.not_isSome_iff_eq_none]
      exact fun preset => unmasked ⟨set, named, preset⟩
    have other : (Entries.get? members s.names.other).isSome := by
      simpa [IsSet, Read.FieldName.value?, named] using set
    obtain ⟨v, found⟩ := Option.isSome_iff_exists.mp other
    rw [unpreset, found]
    rfl

/-- Any other setting is read from the defaults. -/
theorem readIn_putAll_of_unset (distinct : (members.map Prod.fst).Nodup)
    (lost : ¬ s.IsSet members ∨ s.IsMasked defaults members) :
    s.readIn (Entries.putAll defaults members) = s.readIn defaults := by
  unfold readIn Read.FieldName.value?
  rw [Entries.get?_putAll defaults distinct, Entries.get?_putAll defaults distinct]
  rcases lost with unset | masked
  · obtain ⟨named, other⟩ := Option.or_eq_none_iff.mp (Option.not_isSome_iff_eq_none.mp unset)
    rw [named, other]
    rfl
  · obtain ⟨v, preset⟩ := Option.isSome_iff_exists.mp masked.preset
    rw [masked.unnamed, preset]
    rfl

/-- Over the defaults of a file only the mode, the level and the format can be masked. -/
theorem isMasked_defaults_iff :
    s.IsMasked Config.defaults members ↔
      (s = sidebarMode ∨ s = notificationLevel ∨ s = imageFormat) ∧
        Entries.get? members s.names.name = none ∧ (Entries.get? members s.names.other).isSome := by
  constructor
  · rintro ⟨set, unnamed, preset⟩
    refine ⟨?_, unnamed, by simpa [IsSet, Read.FieldName.value?, unnamed] using set⟩
    revert preset
    cases s <;> decide
  · rintro ⟨kind, unnamed, other⟩
    refine ⟨by simpa [IsSet, Read.FieldName.value?, unnamed] using other, unnamed, ?_⟩
    rcases kind with rfl | rfl | rfl <;> rfl

end Setting

/-- A setting of the members keeps its value over defaults unless it is masked, and every other one
has the value of the defaults. -/
theorem ofJson_merge {defaults members : Json.Members} {d c : Config}
    (distinct : (members.map Prod.fst).Nodup) (base : ofJson (.object defaults) = .ok d)
    (accepted : ofJson (.object members) = .ok c) :
    ∃ c', ofJson (.object (merge defaults (.object members))) = .ok c' ∧
      (∀ s : Setting, s.IsSet members → ¬ s.IsMasked defaults members → s.value c' = s.value c) ∧
      ∀ s : Setting, ¬ s.IsSet members ∨ s.IsMasked defaults members → s.value c' = s.value d := by
  have each (s : Setting) : ∃ a, s.readIn (Entries.putAll defaults members) = .ok a ∧
      (s.IsSet members → ¬ s.IsMasked defaults members → a = s.value c) ∧
      (¬ s.IsSet members ∨ s.IsMasked defaults members → a = s.value d) := by
    by_cases lost : ¬ s.IsSet members ∨ s.IsMasked defaults members
    · have read := Setting.readIn_putAll_of_unset distinct lost
      refine ⟨s.value d, read.trans (ofJson_eq_ok.mp base s), fun set unmasked => ?_, fun _ => rfl⟩
      exact absurd lost (not_or.mpr ⟨not_not_intro set, unmasked⟩)
    · obtain ⟨set, unmasked⟩ := not_or.mp lost
      have read := Setting.readIn_putAll_of_set distinct (Decidable.not_not.mp set) unmasked
      exact ⟨s.value c, read.trans (ofJson_eq_ok.mp accepted s), fun _ _ => rfl,
        fun again => absurd again lost⟩
  choose values reads wins loses using each
  refine ⟨ofValues values, ofJson_eq_ok.mpr fun s => ?_, fun s => ?_, fun s => ?_⟩
  · rw [value_ofValues]
    exact reads s
  · rw [value_ofValues]
    exact wins s
  · rw [value_ofValues]
    exact loses s

theorem ofJson_defaults : ofJson (.object defaults) = .ok {} := by
  refine ofJson_eq_ok.mpr fun s => ?_
  cases s <;> rfl

/-! ### Files -/

section Files

variable {σ : Type} {files : Files} {path : FilePath} {content : Bytes} {v : Json}

theorem load_of_document (present : files.content? path = .ok (some content))
    (holds : document? content = some v) (defaults : Json.Members) (w : World σ) (s : σ) :
    load files path defaults w s =
      ⟨(ofJson (.object (merge defaults v))).mapError fun issues => .config (.invalid path issues),
        s, [], [⟨.info, "Loaded config file: " ++ path.text⟩]⟩ := by
  have read : saved files path w s =
      ⟨.ok v, s, [], [⟨.info, "Loaded config file: " ++ path.text⟩]⟩ := by
    unfold saved
    rw [Session.lift_bind (Files.content?_eq_some.mp present)]
    simp only [holds]
    rw [Session.note_bind]
    rfl
  have result : (saved files path w s).result = .ok v := by rw [read]
  unfold load
  rw [Session.bind_of_ok result, read]
  rfl

/-- A file with an object that is a configuration on its own is loaded. A setting that the object
has, under either name, keeps the value that it has there, if it is not masked. A setting that the
object does not have is as in the defaults, and so is a masked one. -/
theorem load_over_defaults {members : Json.Members} {c : Config}
    (present : files.content? path = .ok (some content))
    (holds : document? content = some (.object members))
    (accepted : ofJson (.object members) = .ok c) (w : World σ) (s : σ) :
    ∃ c', load files path defaults w s =
        ⟨.ok c', s, [], [⟨.info, "Loaded config file: " ++ path.text⟩]⟩ ∧
      (∀ x : Setting, x.IsSet members → ¬ x.IsMasked defaults members → x.value c' = x.value c) ∧
      ∀ x : Setting, ¬ x.IsSet members ∨ x.IsMasked defaults members → x.value c' = x.value {} := by
  obtain ⟨text, -, parsed⟩ := Option.bind_eq_some_iff.mp holds
  obtain ⟨c', merged, wins, loses⟩ :=
    ofJson_merge (Json.distinct_of_parse? parsed) ofJson_defaults accepted
  refine ⟨c', ?_, wins, loses⟩
  rw [load_of_document present holds, merged]
  rfl

end Files

/-! ### A file with a masked setting -/

/-- The texts that members hold, if they hold nothing else. -/
def texts? (members : Json.Members) : Option (List (Text × Text)) :=
  members.mapM fun (name, v) => (text? v).map (name, ·)
where
  text? : Json → Option Text
    | .text t => some t
    | _ => none

theorem eq_map_of_texts? {members : Json.Members} {entries : List (Text × Text)}
    (texts : texts? members = some entries) :
    members = entries.map fun e => (e.1, .text e.2) := by
  induction members generalizing entries with
  | nil =>
    cases texts
    rfl
  | cons first rest ih =>
    obtain ⟨name, v⟩ := first
    rw [texts?, List.mapM_cons] at texts
    obtain ⟨_, here, texts⟩ := Option.bind_eq_some_iff.mp texts
    obtain ⟨others, later, same⟩ := Option.bind_eq_some_iff.mp texts
    cases same
    obtain ⟨t, text, rfl⟩ := Option.map_eq_some_iff.mp here
    rw [ih later]
    cases v with
    | text t' =>
      cases text
      rfl
    | _ => cases text

theorem object_of_members? {v : Json} {members : Json.Members}
    (object : v.members? = some members) : v = .object members := by
  cases v with
  | object _ => rw [Option.some.inj object]
  | _ => cases object

def settingsPath : FilePath := ⟨.here, ["wic-config.json"]⟩

def settingsText : Text :=
  "\x7b\"image_format\": \"image/png\", \"wcipher_password\": \"tulip\"\x7d"

def settingsEntries : List (Text × Text) :=
  [("image_format", "image/png"), ("wcipher_password", "tulip")]

def settingsMembers : Json.Members := settingsEntries.map fun e => (e.1, .text e.2)

def settingsFiles : Files := ⟨[(settingsPath, .file (Utf8.encode settingsText))]⟩

def settingsWorld : World (List Http.Reply) := .scripted ⟨⟨2025, 1, 2⟩, 3, 4, 5, 0, .ok 0⟩

theorem settings_present :
    settingsFiles.content? settingsPath = .ok (some (Utf8.encode settingsText)) := rfl

theorem settings_hold : document? (Utf8.encode settingsText) = some (.object settingsMembers) := by
  have read : ((document? (Utf8.encode settingsText)).bind Json.members?).bind texts? =
      some settingsEntries := by decide +kernel
  obtain ⟨members, object, texts⟩ := Option.bind_eq_some_iff.mp read
  obtain ⟨v, held, object⟩ := Option.bind_eq_some_iff.mp object
  rw [held, object_of_members? object, eq_map_of_texts? texts]
  rfl

theorem settings_accepted :
    ofJson (.object settingsMembers) =
      .ok { password := some "tulip".toList, imageFormat := .png } := by
  refine ofJson_eq_ok.mpr fun s => ?_
  cases s <;> rfl

/-- The password is kept, and the format is as in the defaults. -/
theorem settings_loaded :
    ∃ c', load settingsFiles settingsPath defaults settingsWorld [] =
        ⟨.ok c', [], [], [⟨.info, "Loaded config file: wic-config.json"⟩]⟩ ∧
      c'.password = some "tulip".toList ∧ c'.imageFormat = .jpeg ∧ c'.notificationLevel = 4 := by
  obtain ⟨c', loaded, wins, loses⟩ := load_over_defaults settings_present settings_hold
    settings_accepted settingsWorld []
  have masked : Setting.imageFormat.IsMasked defaults settingsMembers :=
    Setting.isMasked_defaults_iff.mpr ⟨by decide, rfl, rfl⟩
  have unmasked : ¬ Setting.password.IsMasked defaults settingsMembers :=
    fun masked => absurd (Setting.isMasked_defaults_iff.mp masked).1 (by decide)
  exact ⟨c', loaded, wins .password (by decide) unmasked, loses .imageFormat (.inr masked),
    loses .notificationLevel (.inl (by decide))⟩

/-- The format that the object has on its own is not the one that is loaded. -/
theorem settings_format_lost :
    ofJson (.object settingsMembers) =
      .ok { password := some "tulip".toList, imageFormat := .png } ∧
    (load settingsFiles settingsPath defaults settingsWorld []).result =
      .ok { password := some "tulip".toList, imageFormat := .jpeg } := by
  refine ⟨settings_accepted, ?_⟩
  have merged : ofJson (.object (merge defaults (.object settingsMembers))) =
      .ok { password := some "tulip".toList, imageFormat := .jpeg } := by
    refine ofJson_eq_ok.mpr fun s => ?_
    cases s <;> rfl
  rw [load_of_document settings_present settings_hold, merged]
  rfl

end Config

end ImageFiling
