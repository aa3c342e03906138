import ImageFiling.Proofs.Naming.Resolution

/-!
# File names with dates

The check of a file name pattern sees a date as it is written and not as it comes out. A pattern
whose only parameters are dates forms a name without the characters that file systems refuse, but
for the colon of an offset from UTC (`dated_name_free_iff`).
-/

namespace ImageFiling.Naming

/-- The tokens of a pattern are those of parameters of some sort. -/
def HoldsOnly (sort : Parameter → Prop) (pattern : Text) : Prop :=
  ∃ tokens, tokens? pattern = some tokens ∧ ∀ token ∈ tokens, ∃ p, sort p ∧ p.token = token

/-- A date parameter with this date pattern stands in a pattern. -/
def Dates (pattern format : Text) : Prop :=
  ∃ tokens, tokens? pattern = some tokens ∧ (Parameter.date format).token ∈ tokens

namespace Parameter

/-- The date pattern by which the time is written for a parameter. -/
def datePattern? : Parameter → Option Text
  | now => some Pattern.timestamp
  | today => some Pattern.calendarDay
  | date format => some format
  | _ => none

/-- A parameter of the time. -/
def IsDate (p : Parameter) : Prop := ∃ format, p.datePattern? = some format

variable {p : Parameter} {format : Text}

theorem datePattern_ne_nil {field : TemplateField} (dated : p.datePattern? = some format)
    (supported : isSupported field p.token = .ok true) : format ≠ [] := by
  rintro rfl
  cases p with
  | date pattern =>
    cases dated
    cases supported
  | now | today | host | title | url | path | query => cases dated

theorem resolve_dated {c : Context} {parts : Url} (page : Url.split c.url = .ok parts)
    (dated : p.datePattern? = some format) (filled : format ≠ []) :
    resolve c p.token = formatted c.now format := by
  rw [resolve_token page]
  cases p with
  | now | today =>
    cases dated
    rfl
  | date pattern =>
    cases dated
    exact if_neg (by simpa using filled)
  | host | title | url | path | query => cases dated

/-- What a date is written with stands in the token or comes from the fields of the time. -/
theorem mem_dated {m : Moment} {u : Text} {x : Char} (dated : p.datePattern? = some format)
    (shown : m.format format = .ok u) (member : x ∈ u) :
    x ∈ p.token ∨ DateField.isInk x = true ∨
      (x = ':' ∧ ∃ pattern, p = .date pattern ∧ Pattern.ShowsColon pattern) := by
  have source := Moment.mem_format shown member
  have fixed (inked : (format.all DateField.isInk) = true) (letter : 'Z' ∉ format) :
      DateField.isInk x = true := by
    rcases source with written | ink | ⟨-, colon⟩
    · exact List.all_eq_true.mp inked x written
    · exact ink
    · exact absurd (Pattern.letter_mem_of_showsColon colon) letter
  cases p with
  | now =>
    cases dated
    exact .inr (.inl (fixed (by decide +kernel) (by decide)))
  | today =>
    cases dated
    exact .inr (.inl (fixed (by decide +kernel) (by decide)))
  | date pattern =>
    cases dated
    refine source.imp ?_ (Or.imp_right fun colon => ⟨colon.1, format, rfl, colon.2⟩)
    intro written
    exact List.mem_cons_of_mem _ (List.mem_append_left _ (List.mem_append_right _ written))
  | host | title | url | path | query => cases dated

end Parameter

theorem isRefused_of_isInk {x : Char} (ink : DateField.isInk x = true) : isRefused x = false := by
  rw [← Bool.not_eq_true]
  intro refused
  rcases (Bool.or_eq_true _ _).mp refused with control | listed
  · have low : x.toNat < 0x20 := of_decide_eq_true control
    simp only [DateField.isInk, Bool.or_eq_true, beq_iff_eq] at ink
    rcases ink with (alphanum | rfl) | rfl
    · have bounds := Text.toNat_of_isAlphanum alphanum
      omega
    · exact absurd low (by decide)
    · exact absurd low (by decide)
  · have none : ("<>:\"/\\|?*".toList.all (!DateField.isInk ·)) = true := by decide
    have other := List.all_eq_true.mp none x (List.contains_iff_mem.mp listed)
    rw [ink] at other
    cases other

variable {c : Context} {pattern r : Text}

theorem format_of_resolve {p : Parameter} {format u : Text} (dated : p.datePattern? = some format)
    (filled : format ≠ []) (resolved : resolve c p.token = .ok u) : c.now.format format = .ok u := by
  obtain ⟨parts, page⟩ := page_of_resolve resolved
  rw [Parameter.resolve_dated page dated filled] at resolved
  exact mapError_eq_ok.mp resolved

/-- The tokens of a layout are parameters of some sort that the check goes past. -/
def Layout.HoldsPassed (field : TemplateField) (sort : Parameter → Prop) (l : Layout) : Prop :=
  ∀ token ∈ l.tokens, ∃ p : Parameter, p.token = token ∧ sort p ∧
    isSupported field p.token = .ok true ∧ IsFree p.token

theorem exists_layout_of_accepted {field : TemplateField} {sort : Parameter → Prop}
    (accepted : patternFault? field pattern = .ok none) (only : HoldsOnly sort pattern) :
    ∃ l : Layout, l.text = pattern ∧ l.HoldsPassed field sort := by
  obtain ⟨-, -, tokens, read, checked⟩ := patternFault?_eq_none.mp accepted
  obtain ⟨_, again, sorted⟩ := only
  cases read.symm.trans again
  obtain ⟨l, rfl, rfl⟩ := exists_layout read
  refine ⟨l, rfl, ?_⟩
  intro token member
  obtain ⟨p, sorted, rfl⟩ := sorted token member
  obtain ⟨supported, name⟩ := checked p.token member
  exact ⟨p, rfl, sorted, supported, isFileName_braced.mp name⟩

/-- A file name pattern without control characters that is accepted is free as it stands. -/
theorem isFree_of_accepted (accepted : patternFault? .fileName pattern = .ok none)
    (printable : ∀ x ∈ pattern, 0x20 ≤ x.toNat) : IsFree pattern := by
  obtain ⟨-, plain, -⟩ := patternFault?_eq_none.mp accepted
  have passes : HasForm PassesAsName .fileName pattern := hasForm_iff.mpr ⟨nofun, plain⟩
  have unbroken : '\n' ∉ pattern := fun member => absurd (printable '\n' member) (by decide)
  exact (isName_iff.mpr ⟨passes, unbroken⟩).2

/-! ### Names made of dates -/

section

variable {l : Layout} {field : TemplateField}

theorem substitute_dated {parts : Url} {o : Int} (tokens : l.HoldsPassed field Parameter.IsDate)
    (page : Url.split c.url = .ok parts) (told : c.now.utcOffset = .ok o) :
    ∃ r, substitute c l.text = .ok r := by
  apply substitute_of_resolved
  intro token member
  obtain ⟨p, rfl, ⟨format, dated⟩, supported, -⟩ := tokens token member
  obtain ⟨u, shown⟩ := Moment.format_ok told format
  have filled := Parameter.datePattern_ne_nil dated supported
  exact ⟨u, (Parameter.resolve_dated page dated filled).trans (mapError_eq_ok.mpr shown)⟩

theorem colon_of_refused {x : Char} (tokens : l.HoldsPassed field Parameter.IsDate)
    (free : IsFree l.text) (filled : substitute c l.text = .ok r) (member : x ∈ r)
    (refused : isRefused x = true) :
    x = ':' ∧ ∃ format, Dates l.text format ∧ Pattern.ShowsColon format := by
  rw [substitute_text] at filled
  rcases l.source_of_mem filled member with inText | ⟨token, inTokens, u, resolved, inside⟩
  · cases (free x inText).symm.trans refused
  · obtain ⟨p, rfl, ⟨format, dated⟩, supported, tokenFree⟩ := tokens token inTokens
    have shown := format_of_resolve dated (Parameter.datePattern_ne_nil dated supported) resolved
    rcases Parameter.mem_dated dated shown inside with written | ink | ⟨colon, f, rfl, shows⟩
    · cases (tokenFree x written).symm.trans refused
    · cases (isRefused_of_isInk ink).symm.trans refused
    · exact ⟨colon, f, ⟨l.tokens, tokens?_text l, inTokens⟩, shows⟩

theorem colon_mem_of_dates {format : Text} (filled : substitute c l.text = .ok r)
    (used : Dates l.text format) (shows : Pattern.ShowsColon format) : ':' ∈ r := by
  obtain ⟨_, read, member⟩ := used
  cases (tokens?_text l).symm.trans read
  rw [substitute_text] at filled
  obtain ⟨u, resolved, inside⟩ := l.exists_infix_of_mem filled member
  have letter := Pattern.letter_mem_of_showsColon shows
  have shown := format_of_resolve (p := .date format) rfl (List.ne_nil_of_mem letter) resolved
  exact inside.subset (Moment.colon_mem_format shown shows)

end

/-- The name that an accepted file name pattern forms from dates alone: there is one if the page can
be cut and the time can be told. Of the characters that file systems refuse only a colon can stand in
it, and one does if a date shows the offset from UTC with its colon, for which it needs the letter
`Z`. -/
theorem dated_name_free_iff (accepted : patternFault? .fileName pattern = .ok none)
    (printable : ∀ x ∈ pattern, 0x20 ≤ x.toNat) (dates : HoldsOnly Parameter.IsDate pattern) :
    (∀ parts o, Url.split c.url = .ok parts → c.now.utcOffset = .ok o →
      ∃ r, substitute c pattern = .ok r) ∧
    ∀ r, substitute c pattern = .ok r →
      (∀ x ∈ r, isRefused x = true → x = ':') ∧
      (IsFree r ↔ ∀ format, Dates pattern format → ¬ Pattern.ShowsColon format) ∧
      ((∀ format, Dates pattern format → 'Z' ∉ format) → IsFree r) := by
  have free := isFree_of_accepted accepted printable
  obtain ⟨l, rfl, tokens⟩ := exists_layout_of_accepted accepted dates
  refine ⟨fun _ _ => substitute_dated tokens, ?_⟩
  intro r filled
  have isFree_iff : IsFree r ↔ ∀ format, Dates l.text format → ¬ Pattern.ShowsColon format := by
    constructor
    · intro clean format used shows
      cases (clean ':' (colon_mem_of_dates filled used shows)).symm
    · intro plain x member
      rw [← Bool.not_eq_true]
      intro refused
      obtain ⟨-, format, used, shows⟩ := colon_of_refused tokens free filled member refused
      exact plain format used shows
  refine ⟨?_, isFree_iff, ?_⟩
  · intro x member refused
    exact (colon_of_refused tokens free filled member refused).1
  · intro letterless
    apply isFree_iff.mpr
    intro format used shows
    exact letterless format used (Pattern.letter_mem_of_showsColon shows)

/-- A page seen an hour ahead of UTC. -/
def lunchPage : Context where
  url := "https://example.org/"
  title := "Lunch"
  now := ⟨⟨2024, 2, 29⟩, 12, 30, 0, 0, .ok 3600⟩
  field := .fileName

/-- `Lunch {today} {now-[at] HHmm ZZ}` -/
def lunchPattern : Text := "Lunch " ++ braced "today" ++ " " ++ braced "now-[at] HHmm ZZ"

theorem lunch_named_freely :
    patternFault? .fileName lunchPattern = .ok none ∧ (∀ x ∈ lunchPattern, 0x20 ≤ x.toNat) ∧
    HoldsOnly Parameter.IsDate lunchPattern ∧
    ∃ r, substitute lunchPage lunchPattern = .ok r ∧ (∀ x ∈ r, isRefused x = true → x = ':') ∧
      r = "Lunch 20240229 at 1230 +0100" := by
  have accepted : patternFault? .fileName lunchPattern = .ok none := by decide +kernel
  have visible : (lunchPattern.all (0x20 ≤ ·.toNat)) = true := by decide +kernel
  have printable : ∀ x ∈ lunchPattern, 0x20 ≤ x.toNat := by simpa using visible
  have read : tokens? lunchPattern = some [braced "today", braced "now-[at] HHmm ZZ"] := by
    decide +kernel
  have dates : HoldsOnly Parameter.IsDate lunchPattern := by
    refine ⟨_, read, ?_⟩
    rintro token (_ | ⟨_, _ | ⟨_, never⟩⟩)
    · exact ⟨.today, ⟨_, rfl⟩, rfl⟩
    · exact ⟨.date "[at] HHmm ZZ", ⟨_, rfl⟩, rfl⟩
    · cases never
  have filled : substitute lunchPage lunchPattern = .ok "Lunch 20240229 at 1230 +0100" := by
    decide +kernel
  have named := (dated_name_free_iff accepted printable dates).2 _ filled
  exact ⟨accepted, printable, dates, _, filled, named.1, rfl⟩

/-- An accepted date that shows the offset from UTC with its colon brings the colon into the name. -/
theorem lunch_offset_not_free :
    patternFault? .fileName (braced "now-Z") = .ok none ∧
    (∀ x ∈ braced "now-Z", 0x20 ≤ x.toNat) ∧ HoldsOnly Parameter.IsDate (braced "now-Z") ∧
    substitute lunchPage (braced "now-Z") = .ok "+01:00" ∧ ¬ IsFree "+01:00" := by
  have visible : ((braced "now-Z").all (0x20 ≤ ·.toNat)) = true := by decide +kernel
  have read : tokens? (braced "now-Z") = some [braced "now-Z"] := by decide +kernel
  refine ⟨by decide +kernel, by simpa using visible, ⟨_, read, ?_⟩, by decide +kernel, ?_⟩
  · rintro token (_ | ⟨_, never⟩)
    · exact ⟨.date "Z", ⟨_, rfl⟩, rfl⟩
    · cases never
  · intro free
    cases free ':' (by decide)

end ImageFiling.Naming
