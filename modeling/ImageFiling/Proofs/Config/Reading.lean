import ImageFiling.Config.Basic
import ImageFiling.Proofs.Result

/-!
# Settings as they are read

A configuration is read setting by setting (`ofJson_eq_ok`): each is the value under one of its two
names, or has a fallback.
-/

namespace ImageFiling.Config

variable {α β : Type}

/-! ### Readers that succeed -/

theorem Checked.both_eq_ok {x : Checked α} {y : Checked β} {a : α} {b : β} :
    Checked.both x y = .ok (a, b) ↔ x = .ok a ∧ y = .ok b := by
  cases x <;> cases y <;> simp [both]

theorem Checked.under_eq_ok {step : Step} {x : Checked α} {a : α} :
    x.under step = .ok a ↔ x = .ok a := mapError_eq_ok

theorem Checked.under_map_eq_ok {step : Step} {x : Checked α} {f : α → β} {b : β} :
    Checked.under step (x.map f) = .ok b ↔ ∃ a, x = .ok a ∧ f a = b :=
  under_eq_ok.trans map_eq_ok

namespace Read

variable {members : Json.Members} {f : FieldName} {read : Json → Checked α} {a fallback : α}

/-- The value of a member, under whichever of its names it goes. -/
def FieldName.value? (f : FieldName) (members : Json.Members) : Option Json :=
  (Entries.get? members f.name).or (Entries.get? members f.other)

theorem FieldName.value?_eq (f : FieldName) (members : Json.Members) :
    f.value? members = (f.find? members).map Prod.snd := by
  unfold value? find?
  cases Entries.get? members f.name <;> cases Entries.get? members f.other <;> rfl

theorem required_eq_ok :
    required members f read = .ok a ↔ ∃ v, f.value? members = some v ∧ read v = .ok a := by
  unfold required
  split
  · next name v found =>
    rw [Checked.under_eq_ok, FieldName.value?_eq, found]
    simp
  · next absent =>
    rw [Checked.under_eq_ok, FieldName.value?_eq, absent]
    simp [fault]

theorem optional_eq_ok :
    optional members f fallback read = .ok a ↔
      (f.value? members).elim (.ok fallback) read = .ok a := by
  unfold optional
  split
  · next name v found =>
    rw [Checked.under_eq_ok, FieldName.value?_eq, found]
    rfl
  · next absent =>
    rw [FieldName.value?_eq, absent]
    rfl

end Read

/-! ### Settings -/

inductive Setting where
  | provider
  | password
  | templates
  | sidebarMode
  | notificationLevel
  | imageFormat
  deriving DecidableEq, Repr

namespace Setting

def names : Setting → Read.FieldName
  | provider => ⟨"provider", "provider"⟩
  | password => ⟨"wcipherPassword", "wcipher_password"⟩
  | templates => ⟨"templates", "templates"⟩
  | sidebarMode => ⟨"sidebarMode", "sidebar_mode"⟩
  | notificationLevel => ⟨"notificationLevel", "notification_level"⟩
  | imageFormat => ⟨"imageFormat", "image_format"⟩

def Value : Setting → Type
  | provider => Option Provider
  | password => Option Text
  | templates => List Template
  | sidebarMode => Int
  | notificationLevel => Int
  | imageFormat => ImageFormat

def value : (s : Setting) → Config → s.Value
  | provider, c => c.provider
  | password, c => c.password
  | templates, c => c.templates
  | sidebarMode, c => c.sidebarMode
  | notificationLevel, c => c.notificationLevel
  | imageFormat, c => c.imageFormat

def read : (s : Setting) → Json → Checked s.Value
  | provider => Read.nullable Read.provider
  | password => Read.nullable Read.text
  | templates => Read.templates
  | sidebarMode => Read.integer
  | notificationLevel => Read.integer
  | imageFormat => Read.imageFormat

/-- What members say of a setting, or its fallback if they say nothing. -/
def readIn (s : Setting) (members : Json.Members) : Checked s.Value :=
  (s.names.value? members).elim (.ok (s.value {})) s.read

end Setting

/-- The configuration with given values of its settings. -/
def ofValues (values : (s : Setting) → s.Value) : Config where
  provider := values .provider
  password := values .password
  templates := values .templates
  sidebarMode := values .sidebarMode
  notificationLevel := values .notificationLevel
  imageFormat := values .imageFormat

theorem value_ofValues (values : (s : Setting) → s.Value) (s : Setting) :
    s.value (ofValues values) = values s := by
  cases s <;> rfl

/-- A configuration is read from an object if each setting is read from it. -/
theorem ofJson_eq_ok {members : Json.Members} {c : Config} :
    ofJson (.object members) = .ok c ↔ ∀ s : Setting, s.readIn members = .ok (s.value c) := by
  have step : ofJson (.object members) = .ok c ↔ _ := map_eq_ok
  rw [step]
  constructor
  · rintro ⟨⟨provider, password, templates, sidebarMode, notificationLevel, imageFormat⟩, read, rfl⟩
    simp only [Checked.both_eq_ok, Read.optional_eq_ok] at read
    obtain ⟨hProvider, hPassword, hTemplates, hSidebar, hLevel, hFormat⟩ := read
    intro s
    cases s with
    | provider => exact hProvider
    | password => exact hPassword
    | templates => exact hTemplates
    | sidebarMode => exact hSidebar
    | notificationLevel => exact hLevel
    | imageFormat => exact hFormat
  · intro all
    refine ⟨(c.provider, c.password, c.templates, c.sidebarMode, c.notificationLevel,
      c.imageFormat), ?_, rfl⟩
    simp only [Checked.both_eq_ok, Read.optional_eq_ok]
    exact ⟨all .provider, all .password, all .templates, all .sidebarMode, all .notificationLevel,
      all .imageFormat⟩

theorem object_of_ofJson {v : Json} {c : Config} (read : ofJson v = .ok c) :
    ∃ members, v = .object members := by
  cases v with
  | object members => exact ⟨members, rfl⟩
  | _ => cases read

end ImageFiling.Config
