import ImageFiling.Proofs.Naming.Acceptance

/-!
# Faults without a name

Most faults of naming are told by name. The others come from a URL that cannot be cut, from a moment
whose zone cannot be told, and from the number of a path parameter that is too long (`Unnamed`); for
the preview of a pattern on a page `preview_unnamed_iff` says exactly when there is one.
-/

namespace ImageFiling

namespace Naming

/-- A pattern with a path parameter whose number is not read. -/
def HoldsLongNumber (pattern : Text) (n : Text.LongNumeral) : Prop :=
  ∃ tokens number, tokens? pattern = some tokens ∧ NamingFault.pathToken number ∈ tokens ∧
    Text.isNumeral number = true ∧ Text.readNumeral number = .error n

/-- What is behind a fault without a name when some patterns are filled for a page. -/
inductive Unnamed (c : Context) (patterns : Text → Prop) : NamingFault → Prop where
  | url {f : Url.Fault} (uncut : Url.split c.url = .error f) : Unnamed c patterns (.url f)
  | time {f : TimeFault} (untold : c.now.utcOffset = .error f) : Unnamed c patterns (.time f)
  | pathNumber {pattern : Text} {n : Text.LongNumeral} (used : patterns pattern)
      (long : HoldsLongNumber pattern n) : Unnamed c patterns (.longPathNumber n)

theorem Unnamed.not_isNamed {c : Context} {patterns : Text → Prop} {f : NamingFault}
    (unnamed : Unnamed c patterns f) : ¬ f.IsNamed := by
  rintro (template | resolution)
  · cases unnamed with
    | url | pathNumber => cases template
    | @time f _ => cases f <;> cases template
  · cases unnamed with
    | url | pathNumber => cases resolution
    | @time f _ => cases f <;> cases resolution

/-- The field for which a pattern is filled does not matter. -/
theorem Unnamed.mono {c : Context} {field : TemplateField} {patterns others : Text → Prop}
    {f : NamingFault} (unnamed : Unnamed { c with field := field } patterns f)
    (more : ∀ p, patterns p → others p) : Unnamed c others f := by
  cases unnamed with
  | url uncut => exact .url uncut
  | time untold => exact .time untold
  | pathNumber used long => exact .pathNumber (more _ used) long

/-! ### One parameter -/

variable {c : Context} {f : NamingFault}

theorem resolve_unnamed {l : Layout} {content : Text} (member : braced content ∈ l.tokens)
    (failed : resolve c (braced content) = .error f) : f.IsNamed ∨ Unnamed c (· = l.text) f := by
  cases page : Url.split c.url with
  | error e =>
    rw [resolve, Context.parts, page] at failed
    cases failed
    exact .inr (.url page)
  | ok parts =>
    cases resolve_error page failed with
    | unsupported _ kind => exact .inl (.inl kind)
    | lacking kind => exact .inl (.inr kind)
    | long isLong same =>
      obtain ⟨number, rfl, numeral, long⟩ := isLong
      subst same
      refine .inr (.pathNumber rfl ⟨l.tokens, number, tokens?_text l, member, numeral, ?_⟩)
      exact Text.readNumeral_eq_error.mpr long
    | time _ untold same =>
      subst same
      exact .inr (.time untold)

/-! ### Patterns -/

theorem substitute_unnamed {t : Text} (failed : substitute c t = .error f) :
    f.IsNamed ∨ Unnamed c (· = t) f := by
  cases read : tokens? t with
  | none =>
    rw [substitute, read] at failed
    cases failed
    exact .inl (.inl rfl)
  | some tokens =>
    obtain ⟨l, rfl, -⟩ := exists_layout read
    rw [substitute_text] at failed
    obtain ⟨content, member, blamed⟩ := fill_error failed
    exact resolve_unnamed member blamed

theorem FailsBy.unnamed {field : TemplateField} {pattern : Option Text}
    (failed : FailsBy c field pattern f) : f.IsNamed ∨ Unnamed c (pattern = some ·) f := by
  obtain ⟨p, rfl, -, failed⟩ := failed
  refine (substitute_unnamed failed).imp_right fun unnamed => unnamed.mono ?_
  rintro q rfl
  rfl

theorem absolute_unnamed (failed : c.absolute = .error f) (patterns : Text → Prop) :
    f.IsNamed ∨ Unnamed c patterns f := by
  rcases bind_eq_error.mp failed with uncut | ⟨parts, -, relative⟩
  · obtain ⟨e, cut, rfl⟩ := mapError_eq_error.mp uncut
    exact .inr (.url cut)
  · split at relative
    · cases relative
    · cases relative
      exact .inl (.inl rfl)

/-- The patterns of some templates. -/
def PatternOf (templates : List Template) (pattern : Text) : Prop :=
  ∃ t ∈ templates, ∃ field, t.pattern? field = some pattern

theorem destination_unnamed {templates : List Template} {mime : Option Text}
    (failed : destination templates c mime = .error f) :
    f.IsNamed ∨ Unnamed c (PatternOf templates) f := by
  cases absolute : c.absolute with
  | error e =>
    rw [destination, absolute] at failed
    cases failed
    exact absolute_unnamed absolute _
  | ok parts =>
    obtain ⟨t, field, found, byPattern⟩ := destination_error absolute failed
    refine byPattern.unnamed.imp_right fun unnamed => unnamed.mono ?_
    intro pattern named
    exact ⟨t, List.mem_of_find?_eq_some found, field, named⟩

/-! ### Previews -/

theorem patternFault?_error {field : TemplateField} {pattern : Text} {n : Text.LongNumeral}
    (failed : patternFault? field pattern = .error n) : HoldsLongNumber pattern n := by
  obtain ⟨-, tokens, read, before, token, after, rfl, -, unread⟩ := patternFault?_eq_error.mp failed
  obtain ⟨l, -, same⟩ := exists_layout read
  have member : token ∈ l.tokens := by simp [same]
  obtain ⟨content, rfl, number, rfl, numeral, long⟩ := (Layout.isSupported_eq_error member).mp unread
  exact ⟨_, number, read, same ▸ member, numeral, Text.readNumeral_eq_error.mpr long⟩

variable {field : TemplateField} {pattern url : Text} {now : Moment}

/-- What the preview of a pattern fails on: the pattern as such, the page, or both together. -/
theorem preview_error (known : field ≠ .description)
    (failed : preview field pattern url now = .error f) :
    (∃ n, patternFault? field pattern = .error n ∧ f = .longPathNumber n) ∨
    (∃ p, f = .pattern p) ∨
    (patternFault? field pattern = .ok none ∧
      (Context.absolute ⟨url, sampleTitle, now, field⟩ = .error f ∨
        ∃ parts, Context.absolute ⟨url, sampleTitle, now, field⟩ = .ok parts ∧
          FailsBy ⟨url, sampleTitle, now, field⟩ field (some pattern) f)) := by
  unfold preview at failed
  rw [if_neg known] at failed
  rcases bind_eq_error.mp failed with unread | ⟨fault, accepted, failed⟩
  · obtain ⟨n, read, rfl⟩ := mapError_eq_error.mp unread
    exact .inl ⟨n, read, rfl⟩
  · cases fault with
    | some p =>
      cases failed
      exact .inr (.inl ⟨p, rfl⟩)
    | none =>
      refine .inr (.inr ⟨mapError_eq_ok.mp accepted, ?_⟩)
      rcases bind_eq_error.mp failed with notAbsolute | ⟨parts, absolute, unfilled⟩
      · exact .inl notAbsolute
      · refine .inr ⟨parts, absolute, ?_⟩
        cases field with
        | directory => exact directoryOf_error unfilled
        | fileName => exact fileNameOf_error unfilled
        | description => exact (known rfl).elim

theorem preview_unnamed (known : field ≠ .description)
    (failed : preview field pattern url now = .error f) :
    f.IsNamed ∨ Unnamed ⟨url, sampleTitle, now, field⟩ (· = pattern) f := by
  rcases preview_error known failed with
    ⟨n, unread, rfl⟩ | ⟨p, rfl⟩ | ⟨-, page | ⟨parts, -, by_pattern⟩⟩
  · exact .inr (.pathNumber rfl (patternFault?_error unread))
  · exact .inl (.inl rfl)
  · exact absolute_unnamed page _
  · refine by_pattern.unnamed.imp_right fun unnamed => unnamed.mono ?_
    rintro p ⟨⟩
    rfl

/-- The preview of a pattern has a fault without a name exactly if a number in the pattern is too
long, or if the pattern is accepted and the URL of the page cannot be cut. -/
theorem preview_unnamed_iff {o : Int} (known : field ≠ .description)
    (told : now.utcOffset = .ok o) :
    (∃ f, preview field pattern url now = .error f ∧ ¬ f.IsNamed) ↔
      (∃ n, patternFault? field pattern = .error n) ∨
      (patternFault? field pattern = .ok none ∧ ∃ e, Url.split url = .error e) := by
  constructor
  · rintro ⟨f, failed, unnamed⟩
    rcases preview_error known failed with
      ⟨n, unread, -⟩ | ⟨p, rfl⟩ | ⟨accepted, page | ⟨parts, absolute, p, same, -, blamed⟩⟩
    · exact .inl ⟨n, unread⟩
    · exact (unnamed (.inl rfl)).elim
    · rcases bind_eq_error.mp page with uncut | ⟨parts, -, relative⟩
      · obtain ⟨e, cut, -⟩ := mapError_eq_error.mp uncut
        exact .inr ⟨accepted, e, cut⟩
      · split at relative
        · cases relative
        · cases relative
          exact (unnamed (.inl rfl)).elim
    · cases same
      obtain ⟨tokens, token, -, -, blames⟩ :=
        substitute_error (c := ⟨url, sampleTitle, now, field⟩) (parts_of_absolute absolute) told
          accepted blamed
      exact (unnamed (.inr blames.kind)).elim
  · rintro (⟨n, unread⟩ | ⟨accepted, e, uncut⟩)
    · refine ⟨.longPathNumber n, ?_, ?_⟩
      · rw [preview, if_neg known, unread]
        rfl
      · have unnamed : Unnamed ⟨url, sampleTitle, now, field⟩ (· = pattern) (.longPathNumber n) :=
          .pathNumber rfl (patternFault?_error unread)
        exact unnamed.not_isNamed
    · refine ⟨.url e, ?_, ?_⟩
      · rw [preview, if_neg known, accepted]
        simp only [Context.absolute, Context.parts, uncut]
        rfl
      · have unnamed : Unnamed ⟨url, sampleTitle, now, field⟩ (· = pattern) (.url e) := .url uncut
        exact unnamed.not_isNamed

end Naming

end ImageFiling
