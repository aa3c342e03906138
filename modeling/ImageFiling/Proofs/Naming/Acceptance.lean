import ImageFiling.Proofs.Naming.Destination
import ImageFiling.Proofs.Naming.Parameter

/-!
# Accepted templates

A template without faults can only fail on what the page lacks: a part of its path or a value of its
query (`accepted_templates_resolve`): each parameter of its fields (`IsParameter`) is one that can be
resolved.
-/

namespace ImageFiling.Naming

open Regex

/-! ### What is accepted -/

/-- The faults with that of one more field. -/
def addFault (t : Template) (faults : List (TemplateField × PatternFault)) (field : TemplateField) :
    Except Text.LongNumeral (List (TemplateField × PatternFault)) := do
  match t.pattern? field with
  | some (c :: pattern) =>
    match ← patternFault? field (c :: pattern) with
    | some f => return faults ++ [(field, f)]
    | none => return faults
  | _ => return faults

theorem templateFaults_eq (t : Template) :
    templateFaults t = [.directory, .fileName, .description].foldlM (addFault t) [] := rfl

def IsAccepted (t : Template) (field : TemplateField) : Prop :=
  ∀ pattern, t.pattern? field = some pattern → pattern ≠ [] → patternFault? field pattern = .ok none

theorem isAccepted_of_addFault {t : Template} {faults : List (TemplateField × PatternFault)}
    {field : TemplateField} (clean : addFault t faults field = .ok []) :
    faults = [] ∧ IsAccepted t field := by
  unfold addFault at clean
  split at clean
  · next c p named =>
    obtain ⟨fault, read, later⟩ := bind_eq_ok.mp clean
    cases fault with
    | some f => exact absurd (Except.ok.inj later) (by simp)
    | none =>
      refine ⟨Except.ok.inj later, ?_⟩
      intro pattern same _
      cases named.symm.trans same
      exact read
  · next other =>
    refine ⟨Except.ok.inj clean, ?_⟩
    intro pattern same some
    obtain ⟨c, p, rfl⟩ := List.exists_cons_of_ne_nil some
    exact absurd same (other c p)

/-- No fault that was found is dropped. -/
theorem isAccepted_of_foldlM {t : Template} {fields : List TemplateField}
    {faults : List (TemplateField × PatternFault)}
    (clean : fields.foldlM (addFault t) faults = .ok []) :
    faults = [] ∧ ∀ field ∈ fields, IsAccepted t field := by
  induction fields generalizing faults with
  | nil => exact ⟨Except.ok.inj clean, by simp⟩
  | cons field fields ih =>
    rw [List.foldlM_cons] at clean
    obtain ⟨next, added, later⟩ := bind_eq_ok.mp clean
    obtain ⟨rfl, others⟩ := ih later
    obtain ⟨none, first⟩ := isAccepted_of_addFault added
    exact ⟨none, List.forall_mem_cons.mpr ⟨first, others⟩⟩

theorem isAccepted_of_templateFaults {t : Template} (clean : templateFaults t = .ok [])
    (field : TemplateField) : IsAccepted t field := by
  rw [templateFaults_eq] at clean
  apply (isAccepted_of_foldlM clean).2
  cases field <;> decide

/-! ### What can fail -/

/-- A token of an accepted pattern that a page has nothing for. -/
structure Blames (f : NamingFault) (token : Text) : Prop where
  kind : f.kind = .resolution
  token? : f.token? = some token
  source : (∃ number, Text.isNumeral number = true ∧ token = NamingFault.pathToken number) ∨
    ∃ name, name ≠ [] ∧ token = NamingFault.queryToken name

/-- A supported token fails only on what the page lacks. -/
theorem blames_of_supported {c : Context} {parts : Url} {o : Int} {content : Text} {f : NamingFault}
    (page : Url.split c.url = .ok parts) (told : c.now.utcOffset = .ok o)
    (supported : isSupported c.field (braced content) = .ok true)
    (failed : resolve c (braced content) = .error f) : Blames f (braced content) := by
  cases resolve_error page failed with
  | unsupported refused => cases supported.symm.trans refused
  | long isLong => exact absurd isLong (not_isLong_of_isSupported supported _)
  | time _ untold => cases told.symm.trans untold
  | lacking kind token? source =>
    refine ⟨kind, token?, ?_⟩
    rcases source with rfl | ⟨number, rfl⟩ | ⟨name, rfl⟩
    · cases supported
    · refine .inl ⟨number, ?_, rfl⟩
      have read := (isSupported_path c.field number).symm.trans supported
      split at read
      · next numeral => exact numeral
      · cases read
    · refine .inr ⟨name, ?_, rfl⟩
      rintro rfl
      cases supported

theorem fill_error {ε : Type} {f : Text → Except ε Text} {l : Layout} {e : ε}
    (failed : fill f l.parts = .error e) :
    ∃ content, braced content ∈ l.tokens ∧ f (braced content) = .error e := by
  induction l with
  | plain t t_plain =>
    have filled := (Layout.plain t t_plain).fill_parts (f := f) (g := id) (by simp [Layout.tokens])
    cases filled.symm.trans failed
  | group before content rest _ _ _ ih =>
    rw [Layout.parts, fill_group] at failed
    rcases bind_eq_error.mp failed with first | ⟨t, -, later⟩
    · exact ⟨content, List.mem_cons_self, first⟩
    · rcases bind_eq_error.mp later with others | ⟨u, -, never⟩
      · obtain ⟨content', member, blamed⟩ := ih others
        exact ⟨content', List.mem_cons_of_mem _ member, blamed⟩
      · cases never

/-- A pattern with accepted tokens fails only on what the page lacks. -/
theorem substitute_error {c : Context} {parts : Url} {o : Int} {t : Text} {f : NamingFault}
    (page : Url.split c.url = .ok parts) (told : c.now.utcOffset = .ok o)
    (accepted : patternFault? c.field t = .ok none) (failed : substitute c t = .error f) :
    ∃ tokens token, tokens? t = some tokens ∧ token ∈ tokens ∧ Blames f token := by
  obtain ⟨-, -, tokens, read, passes⟩ := patternFault?_eq_none.mp accepted
  obtain ⟨l, rfl, rfl⟩ := exists_layout read
  rw [substitute_text] at failed
  obtain ⟨content, member, blamed⟩ := fill_error failed
  exact ⟨l.tokens, braced content, read, member,
    blames_of_supported page told (passes _ member).1 blamed⟩

/-! ### Destinations -/

/-- A failure comes from a pattern that is not empty. -/
def FailsBy (c : Context) (field : TemplateField) (pattern : Option Text) (f : NamingFault) :
    Prop :=
  ∃ p, pattern = some p ∧ p ≠ [] ∧ substitute { c with field := field } p = .error f

theorem filled_error {c : Context} {field : TemplateField} {pattern : Option Text} {f : NamingFault}
    (failed : filled { c with field := field } pattern = .error f) : FailsBy c field pattern f := by
  match pattern with
  | none | some [] => cases failed
  | some (x :: t) => exact ⟨x :: t, rfl, List.cons_ne_nil x t, failed⟩

theorem directoryOf_error {c : Context} {parts : Url} {pattern : Option Text} {f : NamingFault}
    (failed : directoryOf c parts pattern = .error f) : FailsBy c .directory pattern f := by
  rcases bind_eq_error.mp failed with inPattern | ⟨u, -, never⟩
  · exact filled_error inPattern
  · cases u <;> cases never

theorem fileNameOf_error {c : Context} {pattern : Option Text} {f : NamingFault}
    (failed : fileNameOf c pattern = .error f) : FailsBy c .fileName pattern f := by
  rcases bind_eq_error.mp failed with inPattern | ⟨u, -, never⟩
  · exact filled_error inPattern
  · cases u with
    | nil =>
      have stamped := mapError_eq_ok (f := NamingFault.time).mpr c.now.format_timestamp
      cases stamped.symm.trans never
    | cons x u => cases never

theorem descriptionOf_error {c : Context} {pattern : Option Text} {f : NamingFault}
    (failed : descriptionOf c pattern = .error f) : FailsBy c .description pattern f := by
  match pattern with
  | none | some [] => cases failed
  | some (x :: t) =>
    refine ⟨x :: t, rfl, List.cons_ne_nil x t, ?_⟩
    change (substitute { c with field := .description } (x :: t)).map some = .error f at failed
    cases filled : substitute { c with field := .description } (x :: t) with
    | ok u =>
      rw [filled] at failed
      cases failed
    | error e =>
      rw [filled] at failed
      cases failed
      rfl

/-- On an absolute page only a pattern of the template in force can fail. -/
theorem destination_error {templates : List Template} {c : Context} {mime : Option Text}
    {parts : Url} {f : NamingFault} (absolute : c.absolute = .ok parts)
    (failed : destination templates c mime = .error f) :
    ∃ t field, inForce? templates c.url = some t ∧ FailsBy c field (t.pattern? field) f := by
  rw [destination_eq, destinationOf, absolute] at failed
  have byField :
      ∃ field, FailsBy c field ((inForce? templates c.url).bind (·.pattern? field)) f := by
    rcases bind_eq_error.mp failed with never | ⟨_, -, failed⟩
    · cases never
    rcases bind_eq_error.mp failed with inDirectory | ⟨_, -, failed⟩
    · exact ⟨.directory, directoryOf_error inDirectory⟩
    rcases bind_eq_error.mp failed with inFileName | ⟨_, -, failed⟩
    · exact ⟨.fileName, fileNameOf_error inFileName⟩
    rcases bind_eq_error.mp failed with inDescription | ⟨_, -, never⟩
    · exact ⟨.description, descriptionOf_error inDescription⟩
    · cases never
  obtain ⟨field, p, named, p_ne_nil, reason⟩ := byField
  obtain ⟨t, found, pattern⟩ := Option.bind_eq_some_iff.mp named
  exact ⟨t, field, found, p, pattern, p_ne_nil, reason⟩

/-- On an absolute page, templates without faults lead to a destination, or else to a failure that
blames a path or query token of the first template that matches. -/
theorem accepted_templates_resolve {templates : List Template} {c : Context} {parts : Url} {o : Int}
    (accepted : ∀ t ∈ templates, templateFaults t = .ok []) (page : Url.split c.url = .ok parts)
    (scheme : parts.scheme ≠ []) (hostname : parts.hostname ≠ [])
    (told : c.now.utcOffset = .ok o) (mime : Option Text) :
    (∃ d, destination templates c mime = .ok d) ∨
    ∃ f, destination templates c mime = .error f ∧
      ∃ before t after, templates = before ++ t :: after ∧
        (∀ u ∈ before, Glob.accepts u.url c.url = false) ∧ Glob.accepts t.url c.url = true ∧
        ∃ field pattern tokens token, t.pattern? field = some pattern ∧
          tokens? pattern = some tokens ∧ token ∈ tokens ∧ Blames f token := by
  cases outcome : destination templates c mime with
  | ok d => exact .inl ⟨d, rfl⟩
  | error f =>
    have absolute : c.absolute = .ok parts := by
      have isAbsolute : parts.isAbsolute = true := by simp [Url.isAbsolute, scheme, hostname]
      rw [Context.absolute, Context.parts, page]
      exact if_pos isAbsolute
    obtain ⟨t, field, found, pattern, named, pattern_ne_nil, failed⟩ :=
      destination_error absolute outcome
    obtain ⟨matched, before, after, cut, earlier⟩ := List.find?_eq_some_iff_append.mp found
    have member : t ∈ templates := by
      rw [cut]
      exact List.mem_append_right before List.mem_cons_self
    have fits := isAccepted_of_templateFaults (accepted t member) field pattern named pattern_ne_nil
    obtain ⟨tokens, token, read, inside, blamed⟩ :=
      substitute_error (c := { c with field := field }) page told fits failed
    refine .inr ⟨f, rfl, before, t, after, cut, ?_, matched, field, pattern, tokens, token, named,
      read, inside, blamed⟩
    simpa using earlier

/-- A template for the pages of one site. -/
def album : Template where
  url := "https://example.org/*"
  directory := some "/\x7bhost\x7d/\x7bpath-1\x7d"
  fileName := some "\x7bquery-name\x7d \x7bnow-YYYY Z\x7d"
  description := some "\x7btitle\x7d at \x7burl\x7d"

/-- A page of the site whose query has no name. -/
def albumPage : Context where
  url := "https://example.org/sun/1?size=2"
  title := "\x7bhost"
  now := ⟨⟨2024, 2, 29⟩, 12, 30, 0, 0, .ok 3600⟩
  field := .fileName

theorem album_blames_name :
    (∀ t ∈ [album], templateFaults t = .ok []) ∧
    ∃ parts, Url.split albumPage.url = .ok parts ∧ parts.scheme ≠ [] ∧ parts.hostname ≠ [] ∧
      albumPage.now.utcOffset = .ok 3600 ∧
      ∃ f, destination [album] albumPage none = .error f ∧ Blames f "\x7bquery-name\x7d" := by
  have accepted : ∀ t ∈ [album], templateFaults t = .ok [] := by decide +kernel
  have page : Url.split albumPage.url =
      .ok ⟨"https", "example.org", "/sun/1", "size=2", []⟩ := rfl
  refine ⟨accepted, _, page, by decide, by decide, rfl, ?_⟩
  have unnamed : destination [album] albumPage none = .error (.noQueryValue "name") := by
    decide +kernel
  rcases accepted_templates_resolve accepted page (by decide) (by decide) rfl none with
    ⟨d, placed⟩ | ⟨f, failed, -, -, -, -, -, -, -, -, -, token, -, -, -, blamed⟩
  · cases unnamed.symm.trans placed
  · cases unnamed.symm.trans failed
    cases blamed.token?
    exact ⟨_, unnamed, blamed⟩

end ImageFiling.Naming
