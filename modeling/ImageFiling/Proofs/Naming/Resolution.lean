import ImageFiling.Proofs.Naming.Parameter

/-!
# What a page has texts for

The check of a pattern and the page that fills it know parameters by separate rules. What the check
refuses has no text for any page, but for the value without a name that a query may hold
(`unsupported_resolved_iff`). A pattern that cannot be filled blames the first token without a text,
but for a path number of too many digits (`substitute_blames_first`).
-/

namespace ImageFiling.Naming

variable {c : Context} {parts : Url}

/-- A token that is no parameter of the field has a text for a page only if it asks for the value
without a name and the query of the page has one. Otherwise the fault is told by name, with the
token. -/
theorem unsupported_resolved_iff {content : Text} (page : Url.split c.url = .ok parts)
    (unsupported : isSupported c.field (braced content) = .ok false) :
    (∀ r, resolve c (braced content) = .ok r ↔
      content = "query-" ∧ r ≠ [] ∧ Query.first? parts.query [] = some r) ∧
    ∀ f, resolve c (braced content) = .error f →
      f.IsNamed ∧ f.token? = some (braced content) := by
  constructor
  · intro r
    constructor
    · intro resolved
      rcases supported_of_resolve page resolved with supported | ⟨nameless, value⟩
      · cases unsupported.symm.trans supported
      · exact ⟨nameless, queryValue_eq_ok.mp value⟩
    · rintro ⟨rfl, value⟩
      have asked := resolve_token page (.query [])
      exact asked.trans (queryValue_eq_ok.mpr value)
  · intro f failed
    cases resolve_error page failed with
    | unsupported _ kind token? => exact ⟨.inl kind, token?⟩
    | lacking kind token? => exact ⟨.inr kind, token?⟩
    | long isLong => cases unsupported.symm.trans (isSupported_eq_error.mpr isLong)
    | time supported => cases unsupported.symm.trans supported

/-- A page whose query has a value without a name. -/
def colourPage : Context where
  url := "https://example.org/paint?=red&hue=4"
  title := "Colours"
  now := ⟨⟨2024, 2, 29⟩, 12, 30, 0, 0, .ok 0⟩
  field := .fileName

def colourUrl : Url := ⟨"https", "example.org", "/paint", "=red&hue=4", []⟩

theorem colour_zero_unresolved :
    Url.split colourPage.url = .ok colourUrl ∧
    isSupported colourPage.field (braced "path-0") = .ok false ∧
    ∀ r, resolve colourPage (braced "path-0") ≠ .ok r := by
  have page : Url.split colourPage.url = .ok colourUrl := rfl
  have unsupported : isSupported colourPage.field (braced "path-0") = .ok false := rfl
  refine ⟨page, unsupported, ?_⟩
  intro r resolved
  exact absurd (((unsupported_resolved_iff page unsupported).1 r).mp resolved).1 (by decide)

/-- A parameter without a name is refused by the check, and a page has a text for it. -/
theorem colour_nameless_resolved :
    isSupported colourPage.field (braced "query-") = .ok false ∧
    Url.split colourPage.url = .ok colourUrl ∧
    resolve colourPage (braced "query-") = .ok "red" := by
  decide +kernel

/-! ### The first token without a text -/

/-- A token without a text, where all before it have one. -/
def FailsFirst (c : Context) (tokens : List Text) (token : Text) (f : NamingFault) : Prop :=
  ∃ before after, tokens = before ++ token :: after ∧ (∀ u ∈ before, ∃ r, resolve c u = .ok r) ∧
    resolve c token = .error f

theorem exists_failsFirst (c : Context) (tokens : List Text) :
    (∀ token ∈ tokens, ∃ r, resolve c token = .ok r) ∨ ∃ token f, FailsFirst c tokens token f := by
  induction tokens with
  | nil => exact .inl nofun
  | cons token rest ih =>
    cases first : resolve c token with
    | error f => exact .inr ⟨token, f, [], rest, rfl, nofun, first⟩
    | ok r =>
      rcases ih with others | ⟨t, f, before, after, rfl, earlier, failed⟩
      · exact .inl (List.forall_mem_cons.mpr ⟨⟨r, first⟩, others⟩)
      · exact .inr ⟨t, f, token :: before, after, rfl,
          List.forall_mem_cons.mpr ⟨⟨r, first⟩, earlier⟩, failed⟩

theorem substitute_of_resolved {l : Layout} (resolved : ∀ t ∈ l.tokens, ∃ r, resolve c t = .ok r) :
    ∃ r, substitute c l.text = .ok r := by
  choose! g texts using resolved
  exact ⟨l.filled g, (substitute_text c l).trans (l.fill_parts texts)⟩

theorem substitute_of_failsFirst {l : Layout} {token : Text} {f : NamingFault}
    (first : FailsFirst c l.tokens token f) : substitute c l.text = .error f := by
  obtain ⟨before, after, cut, earlier, failed⟩ := first
  exact (substitute_text c l).trans (l.fill_parts_error cut earlier failed)

/-- For a page that can be cut and a time that can be told, a pattern with matching braces is filled,
or it fails by its first token without a text, which the fault names as it stands in the pattern. The
one fault without a token is that of a path number of too many digits. -/
theorem substitute_blames_first {o : Int} {pattern : Text} {tokens : List Text}
    (page : Url.split c.url = .ok parts) (told : c.now.utcOffset = .ok o)
    (read : tokens? pattern = some tokens) :
    ((∀ token ∈ tokens, ∃ r, resolve c token = .ok r) ∧ ∃ r, substitute c pattern = .ok r) ∨
    ∃ token f, FailsFirst c tokens token f ∧ substitute c pattern = .error f ∧
      ((f.IsNamed ∧ f.token? = some token) ∨
        ∃ n, IsLongToken token n ∧ f = .longPathNumber n) := by
  obtain ⟨l, rfl, rfl⟩ := exists_layout read
  rcases exists_failsFirst c l.tokens with resolved | ⟨token, f, first⟩
  · exact .inl ⟨resolved, substitute_of_resolved resolved⟩
  · refine .inr ⟨token, f, first, substitute_of_failsFirst first, ?_⟩
    obtain ⟨before, after, cut, -, failed⟩ := first
    have member : token ∈ l.tokens := by simp [cut]
    obtain ⟨content, rfl⟩ := Layout.exists_braced member
    cases resolve_error page failed with
    | unsupported _ kind token? => exact .inl ⟨.inl kind, token?⟩
    | lacking kind token? => exact .inl ⟨.inr kind, token?⟩
    | long isLong same => exact .inr ⟨_, ⟨content, rfl, isLong⟩, same⟩
    | time _ untold => cases told.symm.trans untold

/-- `{query-hue}-{query-shade}-{path-2}` -/
def shadePattern : Text :=
  braced "query-hue" ++ "-" ++ braced "query-shade" ++ "-" ++ braced "path-2"

theorem colour_blames_shade :
    Url.split colourPage.url = .ok colourUrl ∧ colourPage.now.utcOffset = .ok 0 ∧
    tokens? shadePattern = some [braced "query-hue", braced "query-shade", braced "path-2"] ∧
    ∃ f, substitute colourPage shadePattern = .error f ∧ f.IsNamed ∧
      f.token? = some (braced "query-shade") := by
  have page : Url.split colourPage.url = .ok colourUrl := rfl
  have read : tokens? shadePattern =
      some [braced "query-hue", braced "query-shade", braced "path-2"] := by
    decide +kernel
  have unfilled : substitute colourPage shadePattern = .error (.noQueryValue "shade") := by
    decide +kernel
  refine ⟨page, rfl, read, ?_⟩
  rcases substitute_blames_first page rfl read with ⟨-, r, filled⟩ | ⟨token, f, -, failed, blamed⟩
  · cases unfilled.symm.trans filled
  · cases unfilled.symm.trans failed
    rcases blamed with ⟨named, -⟩ | ⟨n, -, never⟩
    · exact ⟨_, unfilled, named, rfl⟩
    · cases never

theorem resolve_onesToken {n : Nat} (page : Url.split c.url = .ok parts)
    (deep : 1 < parts.path.length) (long : Text.digitLimit ≤ n) :
    resolve c (onesToken n) = .error (.longPathNumber ⟨n + 1⟩) := by
  have asked := resolve_token page (.path (List.replicate (n + 1) '1'))
  have unread : Text.readNumeral (List.replicate (n + 1) '1') = .error ⟨n + 1⟩ := by
    apply Text.readNumeral_eq_error.mpr
    rw [List.length_replicate]
    exact ⟨Nat.lt_succ_of_le long, rfl⟩
  refine asked.trans ?_
  change Parameter.segment (List.replicate (n + 1) '1') parts.path = _
  rw [Parameter.segment, if_neg (Nat.not_le.mpr deep), isNumeral_ones, unread]
  rfl

/-- A path number of more digits than are read makes a fault that is not told by name and has no
token. -/
theorem colour_long_number_not_blamed :
    tokens? (onesToken Text.digitLimit) = some [onesToken Text.digitLimit] ∧
    Url.split colourPage.url = .ok colourUrl ∧ colourPage.now.utcOffset = .ok 0 ∧
    ∃ f, substitute colourPage (onesToken Text.digitLimit) = .error f ∧ ¬ f.IsNamed ∧
      f.token? = none := by
  have page : Url.split colourPage.url = .ok colourUrl := rfl
  have unread := resolve_onesToken page (by decide) (Nat.le_refl Text.digitLimit)
  have first : FailsFirst colourPage (onesLayout Text.digitLimit).tokens
      (onesToken Text.digitLimit) (.longPathNumber ⟨Text.digitLimit + 1⟩) :=
    ⟨[], [], rfl, nofun, unread⟩
  have failed := substitute_of_failsFirst first
  rw [onesLayout_text] at failed
  refine ⟨tokens?_onesToken _, page, rfl, _, failed, ?_, rfl⟩
  rintro (template | resolution)
  · cases template
  · cases resolution

end ImageFiling.Naming
