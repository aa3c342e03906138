import ImageFiling.Proofs.Naming.Language
import ImageFiling.Proofs.Naming.Substitution
import ImageFiling.Proofs.Time.Pattern

/-!
# Parameters as they are written

A parameter has one written form, from which it is read back (`ofContent?_eq_some`). A token has no
text for a page for one of four reasons (`Unresolved`), and one that has a text is a parameter of the
field, but for a query parameter without a name.
-/

namespace ImageFiling

/-- A fault that is told by name. -/
def NamingFault.IsNamed (f : NamingFault) : Prop := f.kind = .template ∨ f.kind = .resolution

namespace Naming

namespace Parameter

/-- What stands between the braces of a parameter. -/
def content : Parameter → Text
  | host => "host"
  | title => "title"
  | url => "url"
  | now => "now"
  | today => "today"
  | date pattern => "now-" ++ pattern
  | path number => "path-" ++ number
  | query name => "query-" ++ name

/-- A parameter with its braces. -/
def token (p : Parameter) : Text := braced p.content

theorem ofContent?_content (p : Parameter) : ofContent? p.content = some p := by
  cases p <;> rfl

theorem content_of_ofContent? {content : Text} {p : Parameter} (known : ofContent? content = some p) :
    p.content = content := by
  unfold ofContent? at known
  simp only [Option.orElse_eq_orElse, Option.orElse_eq_or, Option.or_eq_some_iff,
    Option.map_eq_some_iff] at known
  rcases known with fixed | ⟨-, ⟨rest, found, rfl⟩ | ⟨-, ⟨rest, found, rfl⟩ | ⟨-, rest, found, rfl⟩⟩⟩
  · obtain ⟨before, after, cut, -⟩ := List.lookup_eq_some_iff.mp fixed
    have member : (content, p) ∈ named := by
      rw [cut]
      exact List.mem_append_right before List.mem_cons_self
    have written : ∀ entry ∈ named, entry.2.content = entry.1 := by decide
    exact written _ member
  · exact Text.append_of_after? found
  · exact Text.append_of_after? found
  · exact Text.append_of_after? found

theorem ofContent?_eq_some {content : Text} {p : Parameter} :
    ofContent? content = some p ↔ p.content = content := by
  constructor
  · exact content_of_ofContent?
  · rintro rfl
    exact p.ofContent?_content

end Parameter

variable {c : Context} {parts : Url} {content : Text} {f : NamingFault}

/-! ### Texts of parameters -/

theorem formatted_error {m : Moment} {pattern : Text}
    (failed : Parameter.formatted m pattern = .error f) :
    ∃ e, f = .time e ∧ m.utcOffset = .error e := by
  obtain ⟨e, rendered, rfl⟩ := mapError_eq_error.mp failed
  exact ⟨e, rfl, Moment.format_error rendered⟩

/-- A number names the pieces of a path from 1 on, the text before its first slash not being one. -/
theorem segment_eq_ok {number path s : Text} :
    Parameter.segment number path = .ok s ↔
      1 < path.length ∧ Text.isNumeral number = true ∧ number.length ≤ Text.digitLimit ∧
        ∃ n, Text.value number = n + 1 ∧ (Text.pieces '/' path)[n + 1]? = some s := by
  constructor
  · intro found
    unfold Parameter.segment at found
    split at found
    · cases found
    split at found
    · cases found
    · next long numeral =>
      obtain ⟨k, read, later⟩ := bind_eq_ok.mp found
      obtain ⟨short, value⟩ := Text.readNumeral_eq_ok.mp (mapError_eq_ok.mp read)
      refine ⟨Nat.lt_of_not_le long, by simpa using numeral, short, ?_⟩
      split at later
      · next n t inside =>
        cases later
        exact ⟨n, value, inside⟩
      · cases later
  · rintro ⟨long, numeral, short, n, value, inside⟩
    have read := Text.readNumeral_eq_ok.mpr ⟨short, value⟩
    rw [Parameter.segment, if_neg (Nat.not_le.mpr long), if_neg (by simp [numeral])]
    refine bind_eq_ok.mpr ⟨n + 1, mapError_eq_ok.mpr read, ?_⟩
    rw [inside]

theorem segment_error {number path : Text} (failed : Parameter.segment number path = .error f) :
    (f.kind = .resolution ∧ f.token? = some (NamingFault.pathToken number)) ∨
    ∃ n, Text.isNumeral number = true ∧ Text.readNumeral number = .error n ∧
      f = .longPathNumber n := by
  unfold Parameter.segment at failed
  split at failed
  · cases failed
    exact .inl ⟨rfl, rfl⟩
  split at failed
  · cases failed
    exact .inl ⟨rfl, rfl⟩
  · next numeral =>
    rcases bind_eq_error.mp failed with unread | ⟨k, -, later⟩
    · obtain ⟨n, read, rfl⟩ := mapError_eq_error.mp unread
      exact .inr ⟨n, by simpa using numeral, read, rfl⟩
    · split at later
      · cases later
      · cases later
        exact .inl ⟨rfl, rfl⟩

theorem queryValue_eq_ok {query name value : Text} :
    Parameter.queryValue query name = .ok value ↔
      value ≠ [] ∧ Query.first? query name = some value := by
  unfold Parameter.queryValue
  split
  · next x r first =>
    rw [first]
    constructor
    · rintro ⟨⟩
      exact ⟨List.cons_ne_nil x r, rfl⟩
    · rintro ⟨-, ⟨⟩⟩
      rfl
  · next other =>
    refine ⟨nofun, ?_⟩
    rintro ⟨filled, first⟩
    obtain ⟨x, r, rfl⟩ := List.exists_cons_of_ne_nil filled
    exact (other x r first).elim

theorem queryValue_error {query name : Text} (failed : Parameter.queryValue query name = .error f) :
    f.kind = .resolution ∧ f.token? = some (NamingFault.queryToken name) := by
  unfold Parameter.queryValue at failed
  split at failed
  · cases failed
  · cases failed
    exact ⟨rfl, rfl⟩

theorem page_of_resolve {token u : Text} (resolved : resolve c token = .ok u) :
    ∃ parts, Url.split c.url = .ok parts := by
  obtain ⟨parts, page, -⟩ := bind_eq_ok.mp resolved
  exact ⟨parts, mapError_eq_ok.mp page⟩

theorem resolve_token (page : Url.split c.url = .ok parts) (p : Parameter) :
    resolve c p.token = p.text c parts p.token := by
  rw [resolve, Context.parts, page, Parameter.ofToken?, Parameter.token, braced_content,
    p.ofContent?_content]
  rfl

theorem resolve_of_none (page : Url.split c.url = .ok parts)
    (unknown : Parameter.ofContent? content = none) :
    resolve c (braced content) = .error (.unsupported (braced content)) := by
  rw [resolve, Context.parts, page, Parameter.ofToken?, braced_content, unknown]
  rfl

/-! ### Supported parameters -/

theorem isSupported_url (field : TemplateField) :
    isSupported field (Parameter.token .url) = .ok (field = .description) := rfl

theorem isSupported_date {field : TemplateField} {pattern : Text} (filled : pattern ≠ []) :
    isSupported field (Parameter.date pattern).token = .ok true :=
  isSupported_open (by decide) filled

theorem isSupported_query {field : TemplateField} {name : Text} (filled : name ≠ []) :
    isSupported field (Parameter.query name).token = .ok true :=
  isSupported_open (by decide) filled

/-- What is no parameter at all is none of any field. -/
theorem isSupported_of_none (field : TemplateField) (unknown : Parameter.ofContent? content = none) :
    isSupported field (braced content) = .ok false := by
  have other (p : Parameter) : p.content ≠ content := fun same => by
    cases unknown.symm.trans (Parameter.ofContent?_eq_some.mpr same)
  cases supported : isSupported field (braced content) with
  | error n =>
    obtain ⟨number, rfl, -⟩ := isSupported_eq_error.mp supported
    exact (other (.path number) rfl).elim
  | ok answer =>
    cases answer with
    | false => rfl
    | true =>
      cases isParameter_of_isSupported supported with
      | common known =>
        have named : ∀ name ∈ commonNames, ∃ p : Parameter, p.content = name := by
          simp only [commonNames, List.forall_mem_cons]
          exact ⟨⟨.now, rfl⟩, ⟨.today, rfl⟩, ⟨.host, rfl⟩, ⟨.title, rfl⟩, nofun⟩
        obtain ⟨p, same⟩ := named _ known
        exact (other p same).elim
      | url => exact (other .url rfl).elim
      | @date pattern => exact (other (.date pattern) rfl).elim
      | @query name => exact (other (.query name) rfl).elim
      | @path number => exact (other (.path number) rfl).elim

/-- Why a token has no text for a page. -/
inductive Unresolved (c : Context) (content : Text) (f : NamingFault) : Prop where
  | unsupported (refused : isSupported c.field (braced content) = .ok false)
      (kind : f.kind = .template) (token? : f.token? = some (braced content))
  /-- The parameter lacks a format, or the page a part of its path or a value of its query. -/
  | lacking (kind : f.kind = .resolution) (token? : f.token? = some (braced content))
      (source : content = Parameter.content (.date []) ∨
        (∃ number, content = Parameter.content (.path number)) ∨
        ∃ name, content = Parameter.content (.query name))
  | long {n : Text.LongNumeral} (isLong : IsLong content n) (same : f = .longPathNumber n)
  | time {e : TimeFault} (supported : isSupported c.field (braced content) = .ok true)
      (untold : c.now.utcOffset = .error e) (same : f = .time e)

theorem resolve_error (page : Url.split c.url = .ok parts)
    (failed : resolve c (braced content) = .error f) : Unresolved c content f := by
  cases known : Parameter.ofContent? content with
  | none =>
    rw [resolve_of_none page known] at failed
    cases failed
    exact .unsupported (isSupported_of_none c.field known) rfl rfl
  | some p =>
    obtain rfl := Parameter.ofContent?_eq_some.mp known
    have dated {pattern : Text} (supported : isSupported c.field p.token = .ok true)
        (failed : Parameter.formatted c.now pattern = .error f) : Unresolved c p.content f := by
      obtain ⟨e, same, untold⟩ := formatted_error failed
      exact .time supported untold same
    change resolve c p.token = .error f at failed
    rw [resolve_token page] at failed
    cases p with
    | host | title => cases failed
    | now | today => exact dated rfl failed
    | url =>
      simp only [Parameter.text] at failed
      split at failed
      · cases failed
      · next outside =>
        cases failed
        refine .unsupported ?_ rfl rfl
        exact (isSupported_url c.field).trans (congrArg _ (decide_eq_false outside))
    | date pattern =>
      simp only [Parameter.text] at failed
      split at failed
      · next empty =>
        obtain rfl := List.isEmpty_iff.mp empty
        cases failed
        exact .lacking rfl rfl (.inl rfl)
      · next filled => exact dated (isSupported_date (by simpa using filled)) failed
    | path number =>
      rcases segment_error failed with ⟨kind, token?⟩ | ⟨n, numeral, read, same⟩
      · exact .lacking kind token? (.inr (.inl ⟨number, rfl⟩))
      · obtain ⟨long, rfl⟩ := Text.readNumeral_eq_error.mp read
        exact .long ⟨number, rfl, numeral, long, rfl⟩ same
    | query name =>
      obtain ⟨kind, token?⟩ := queryValue_error failed
      exact .lacking kind token? (.inr (.inr ⟨name, rfl⟩))

/-- What a page has a text for is a parameter of the field, but for the value without a name. -/
theorem supported_of_resolve {r : Text} (page : Url.split c.url = .ok parts)
    (resolved : resolve c (braced content) = .ok r) :
    isSupported c.field (braced content) = .ok true ∨
      (content = Parameter.content (.query []) ∧
        Parameter.queryValue parts.query [] = .ok r) := by
  cases known : Parameter.ofContent? content with
  | none =>
    rw [resolve_of_none page known] at resolved
    cases resolved
  | some p =>
    obtain rfl := Parameter.ofContent?_eq_some.mp known
    change resolve c p.token = .ok r at resolved
    rw [resolve_token page] at resolved
    cases p with
    | host | title | now | today => exact .inl rfl
    | url =>
      simp only [Parameter.text] at resolved
      split at resolved
      · next inside =>
        exact .inl ((isSupported_url c.field).trans (congrArg _ (decide_eq_true inside)))
      · cases resolved
    | date pattern =>
      simp only [Parameter.text] at resolved
      split at resolved
      · cases resolved
      · next filled => exact .inl (isSupported_date (by simpa using filled))
    | path number =>
      obtain ⟨-, numeral, short, n, value, -⟩ := segment_eq_ok.mp resolved
      refine .inl ((isSupported_path c.field number).trans ?_)
      rw [if_pos numeral, Text.readNumeral_eq_ok.mpr ⟨short, value⟩, Except.map,
        decide_eq_true (Nat.succ_pos n)]
    | query name =>
      by_cases unnamed : name = []
      · subst unnamed
        exact .inr ⟨rfl, resolved⟩
      · exact .inl (isSupported_query unnamed)

end Naming

end ImageFiling
