import ImageFiling.Naming.Acceptance
import ImageFiling.Proofs.Naming.Braces
import ImageFiling.Proofs.Result
import ImageFiling.Proofs.Text.Digits
import ImageFiling.Proofs.Text.Pieces

/-!
# The language of accepted patterns

A pattern is accepted exactly if its tokens are parameters of the field and its names hold no
character that file systems refuse, but for a line feed at the end of a name, which is not seen. A
check without an answer is one that meets a path number of too many digits
(`accepted_iff_written`).
-/

namespace ImageFiling

namespace Naming

/-! ### Parameters -/

/-- What the parameters of a field are called. -/
inductive IsParameter (field : TemplateField) : Text → Prop where
  | common {name : Text} (known : name ∈ commonNames) : IsParameter field name
  | url (described : field = .description) : IsParameter field "url"
  | date {pattern : Text} (filled : pattern ≠ []) : IsParameter field ("now-" ++ pattern)
  | query {name : Text} (filled : name ≠ []) : IsParameter field ("query-" ++ name)
  | path {number : Text} (numeral : Text.isNumeral number = true)
      (positive : 0 < Text.value number) : IsParameter field ("path-" ++ number)

/-- A path parameter whose number has more digits than are read. -/
def IsLong (content : Text) (f : Text.LongNumeral) : Prop :=
  ∃ number, content = "path-" ++ number ∧ Text.isNumeral number = true ∧
    Text.digitLimit < number.length ∧ f = ⟨number.length⟩

theorem braced_content (content : Text) : ((braced content).drop 1).dropLast = content := by
  simp [braced]

variable {field : TemplateField} {content pattern token : Text} {tokens : List Text}
  {f : Text.LongNumeral}

theorem isSupported_path (field : TemplateField) (number : Text) :
    isSupported field (braced ("path-" ++ number)) =
      if Text.isNumeral number then (Text.readNumeral number).map fun n => decide (0 < n)
      else .ok false := by
  have uncommon : commonNames.contains ("path-" ++ number : Text) = false := rfl
  have closed : (openPrefixes.any fun start => start.isPrefixOf ("path-" ++ number : Text) &&
      start.length < ("path-" ++ number : Text).length) = false := rfl
  unfold isSupported
  simp only [braced_content, uncommon, closed, Text.after?_append]
  rfl

theorem isSupported_open {start rest : Text} (member : start ∈ openPrefixes) (filled : rest ≠ []) :
    isSupported field (braced (start ++ rest)) = .ok true := by
  have notUrl : start ++ rest ≠ "url" := by
    simp only [openPrefixes, List.mem_cons, List.not_mem_nil, or_false] at member
    rcases member with rfl | rfl
    · exact fun same => absurd (List.cons.inj same).1 (by decide)
    · exact fun same => absurd (List.cons.inj same).1 (by decide)
  have opens : (openPrefixes.any fun start' => start'.isPrefixOf (start ++ rest) &&
      start'.length < (start ++ rest).length) = true := by
    refine List.any_eq_true.mpr ⟨start, member, ?_⟩
    have longer := List.length_pos_of_ne_nil filled
    simpa using longer
  unfold isSupported
  simp only [braced_content, if_neg notUrl, opens, if_true, ite_self]

theorem isSupported_eq_error :
    isSupported field (braced content) = .error f ↔ IsLong content f := by
  constructor
  · intro failed
    unfold isSupported at failed
    simp only [braced_content] at failed
    split at failed
    · cases failed
    split at failed
    · cases failed
    split at failed
    · cases failed
    split at failed
    · next number named =>
      split at failed
      · next numeral =>
        obtain ⟨long, rfl⟩ := Text.readNumeral_eq_error.mp (map_eq_error.mp failed)
        exact ⟨number, (Text.append_of_after? named).symm, numeral, long, rfl⟩
      · cases failed
    · cases failed
  · rintro ⟨number, rfl, numeral, long, rfl⟩
    rw [isSupported_path, if_pos numeral, Text.readNumeral_eq_error.mpr ⟨long, rfl⟩]
    rfl

theorem isParameter_of_isSupported (supported : isSupported field (braced content) = .ok true) :
    IsParameter field content := by
  unfold isSupported at supported
  simp only [braced_content] at supported
  split at supported
  · next common => exact .common (List.contains_iff_mem.mp common)
  split at supported
  · next url =>
    subst url
    exact .url (of_decide_eq_true (Except.ok.inj supported))
  split at supported
  · next opens =>
    obtain ⟨start, member, fits⟩ := List.any_eq_true.mp opens
    obtain ⟨begins, longer⟩ := (Bool.and_eq_true _ _).mp fits
    obtain ⟨rest, rfl⟩ := List.isPrefixOf_iff_prefix.mp begins
    have filled : rest ≠ [] := by
      rintro rfl
      simp at longer
    rcases List.mem_cons.mp member with rfl | member
    · exact .date filled
    · rw [List.mem_singleton.mp member]
      exact .query filled
  split at supported
  · next number named =>
    rw [← Text.append_of_after? named]
    split at supported
    · next numeral =>
      obtain ⟨n, read, positive⟩ := map_eq_ok.mp supported
      obtain ⟨-, rfl⟩ := Text.readNumeral_eq_ok.mp read
      exact .path numeral (of_decide_eq_true positive)
    · cases supported
  · cases supported

theorem not_isLong_of_isSupported (supported : isSupported field (braced content) = .ok true) :
    ∀ f, ¬ IsLong content f := by
  intro f long
  cases supported.symm.trans (isSupported_eq_error.mpr long)

theorem readNumeral_of_not_isLong {number : Text} (numeral : Text.isNumeral number = true)
    (readable : ∀ f, ¬ IsLong ("path-" ++ number) f) :
    Text.readNumeral number = .ok (Text.value number) := by
  have short : number.length ≤ Text.digitLimit :=
    Nat.not_lt.mp fun long => readable _ ⟨number, rfl, numeral, long, rfl⟩
  exact Text.readNumeral_eq_ok.mpr ⟨short, rfl⟩

/-- The parameters that a check finds supported are those of the field that can be read. -/
theorem isSupported_eq_true :
    isSupported field (braced content) = .ok true ↔
      IsParameter field content ∧ ∀ f, ¬ IsLong content f := by
  constructor
  · intro supported
    exact ⟨isParameter_of_isSupported supported, not_isLong_of_isSupported supported⟩
  · rintro ⟨parameter, readable⟩
    cases parameter with
    | common known =>
      unfold isSupported
      simp only [braced_content, if_pos (List.contains_iff_mem.mpr known)]
    | url described =>
      subst described
      rfl
    | date filled => exact isSupported_open (by decide) filled
    | query filled => exact isSupported_open (by decide) filled
    | path numeral positive =>
      rw [isSupported_path, if_pos numeral, readNumeral_of_not_isLong numeral readable, Except.map,
        decide_eq_true positive]

/-! ### Names -/

/-- No character that file systems refuse stands in a text. -/
def IsFree (t : Text) : Prop := ∀ c ∈ t, isRefused c = false

/-- What can be a name in a file system. -/
def IsName (t : Text) : Prop := t ≠ [] ∧ IsFree t

/-- What passes as a name: a name, or such characters with a line feed after them. -/
def PassesAsName (t : Text) : Prop := IsName t ∨ ∃ u, t = u ++ ['\n'] ∧ IsFree u

theorem isFileName_iff {t : Text} : isFileName t = true ↔ PassesAsName t := by
  unfold isFileName dropFinalLineFeed
  rw [Bool.and_eq_true]
  split
  · next ends =>
    obtain ⟨u, rfl⟩ := List.getLast?_eq_some_iff.mp ends
    rw [List.dropLast_concat]
    constructor
    · rintro ⟨-, free⟩
      exact .inr ⟨u, rfl, by simpa [IsFree] using free⟩
    · rintro (⟨-, free⟩ | ⟨v, same, free⟩)
      · exact absurd (free '\n' (by simp)) (by decide)
      · obtain rfl := List.append_cancel_right same
        exact ⟨by simp, by simpa [IsFree] using free⟩
  · next other =>
    constructor
    · rintro ⟨filled, free⟩
      exact .inl ⟨by simpa using filled, by simpa [IsFree] using free⟩
    · rintro (⟨filled, free⟩ | ⟨u, rfl, -⟩)
      · exact ⟨by simpa using filled, by simpa [IsFree] using free⟩
      · exact absurd (List.getLast?_concat ..) other

theorem isName_iff {t : Text} : IsName t ↔ PassesAsName t ∧ '\n' ∉ t := by
  constructor
  · intro name
    exact ⟨.inl name, fun inside => absurd (name.2 '\n' inside) (by decide)⟩
  · rintro ⟨name | ⟨u, rfl, -⟩, clean⟩
    · exact name
    · exact absurd (List.mem_append_right u (List.mem_singleton_self _)) clean

/-- A token ends with its brace, so that all of it is seen. -/
theorem isFileName_braced : isFileName (braced content) = true ↔ IsFree (braced content) := by
  rw [isFileName_iff]
  constructor
  · rintro (name | ⟨u, same, -⟩)
    · exact name.2
    · have last : ('\x7b' :: content ++ ['\x7d']).getLast? = some '\x7d' := List.getLast?_concat
      change (braced content).getLast? = _ at last
      rw [same, List.getLast?_concat] at last
      cases last
  · intro free
    exact .inl ⟨List.cons_ne_nil _ _, free⟩

/-! ### Tokens -/

/-- A token of a field, in braces. -/
def IsToken (field : TemplateField) (token : Text) : Prop :=
  ∃ content, token = braced content ∧ IsParameter field content ∧ IsFree token

/-- A token with a path number that has more digits than are read. -/
def IsLongToken (token : Text) (f : Text.LongNumeral) : Prop :=
  ∃ content, token = braced content ∧ IsLong content f

def IsReadable (token : Text) : Prop := ∀ f, ¬ IsLongToken token f

/-- A token that a check goes past. -/
def Passes (field : TemplateField) (token : Text) : Prop :=
  isSupported field token = .ok true ∧ isFileName token = true

theorem passes_braced :
    Passes field (braced content) ↔
      IsToken field (braced content) ∧ IsReadable (braced content) := by
  unfold Passes IsToken IsReadable IsLongToken
  rw [isSupported_eq_true, isFileName_braced]
  have only {P : Text → Prop} : (∃ c, braced content = braced c ∧ P c) ↔ P content := by
    constructor
    · rintro ⟨c, same, holds⟩
      rwa [← braced_content content, same, braced_content]
    · intro holds
      exact ⟨content, rfl, holds⟩
  simp only [only]
  exact and_right_comm

/-- What a check makes of the first token: it goes past it, has no answer, or finds a fault. -/
theorem tokenFault?_cons (field : TemplateField) (token : Text) (rest : List Text) :
    (Passes field token ∧ tokenFault? field (token :: rest) = tokenFault? field rest) ∨
    (∃ f, isSupported field token = .error f ∧ tokenFault? field (token :: rest) = .error f) ∨
    (¬ Passes field token ∧ (∀ f, isSupported field token ≠ .error f) ∧
      ∃ p, tokenFault? field (token :: rest) = .ok (some p)) := by
  unfold Passes
  rw [tokenFault?]
  cases isSupported field token with
  | error f => exact .inr (.inl ⟨f, rfl, rfl⟩)
  | ok supported =>
    cases supported with
    | false => exact .inr (.inr ⟨by simp, by simp, _, rfl⟩)
    | true =>
      cases isFileName token with
      | false => exact .inr (.inr ⟨by simp, by simp, _, rfl⟩)
      | true => exact .inl ⟨⟨rfl, rfl⟩, rfl⟩

theorem tokenFault?_eq_none :
    tokenFault? field tokens = .ok none ↔ ∀ token ∈ tokens, Passes field token := by
  induction tokens with
  | nil => simp [tokenFault?]
  | cons token rest ih =>
    rw [List.forall_mem_cons, ← ih]
    rcases tokenFault?_cons field token rest with
      ⟨passes, same⟩ | ⟨f, unread, same⟩ | ⟨stops, -, p, same⟩
    · rw [same]
      exact (and_iff_right passes).symm
    · rw [same]
      exact ⟨nofun, fun all => by cases unread.symm.trans all.1.1⟩
    · rw [same]
      exact ⟨nofun, fun all => absurd all.1 stops⟩

/-- A check goes past some tokens and has no answer for the next one. -/
def StopsAt (field : TemplateField) (tokens : List Text) (f : Text.LongNumeral) : Prop :=
  ∃ before token after, tokens = before ++ token :: after ∧ (∀ t ∈ before, Passes field t) ∧
    isSupported field token = .error f

theorem stopsAt_cons {rest : List Text} :
    StopsAt field (token :: rest) f ↔
      isSupported field token = .error f ∨ (Passes field token ∧ StopsAt field rest f) := by
  constructor
  · rintro ⟨before, t, after, cut, earlier, unread⟩
    cases before with
    | nil =>
      obtain ⟨rfl, rfl⟩ := List.cons.inj cut
      exact .inl unread
    | cons u before =>
      obtain ⟨rfl, rfl⟩ := List.cons.inj cut
      obtain ⟨first, others⟩ := List.forall_mem_cons.mp earlier
      exact .inr ⟨first, before, t, after, rfl, others, unread⟩
  · rintro (unread | ⟨first, before, t, after, rfl, others, unread⟩)
    · exact ⟨[], token, rest, rfl, by simp, unread⟩
    · exact ⟨token :: before, t, after, rfl, List.forall_mem_cons.mpr ⟨first, others⟩, unread⟩

theorem tokenFault?_eq_error : tokenFault? field tokens = .error f ↔ StopsAt field tokens f := by
  induction tokens with
  | nil => exact ⟨nofun, by rintro ⟨before, token, after, same, -⟩; simp at same⟩
  | cons token rest ih =>
    rw [stopsAt_cons]
    rcases tokenFault?_cons field token rest with
      ⟨passes, same⟩ | ⟨g, unread, same⟩ | ⟨stops, read, p, same⟩
    · have read : isSupported field token ≠ .error f := by simp [passes.1]
      rw [same, ih, or_iff_right read, and_iff_right passes]
    · have stops : ¬ Passes field token := by simp [Passes, unread]
      rw [same, unread, or_iff_left fun later => stops later.1]
      simp
    · rw [same]
      exact ⟨nofun, fun either => either.elim (absurd · (read f)) fun later => absurd later.1 stops⟩

/-! ### Patterns -/

def IsRooted (field : TemplateField) (pattern : Text) : Prop :=
  field = .directory → pattern.head? = some '/'

/-- What the text of a pattern has to be around its tokens, for a notion of names. -/
def HasForm (name : Text → Prop) : TemplateField → Text → Prop
  | .directory, pattern =>
    ∃ path, pattern = '/' :: path ∧ (path = [] ∨ ∀ segment ∈ Text.pieces '/' path, name segment)
  | .fileName, pattern => name pattern
  | .description, _ => True

/-- What a pattern of a field has to be, for a notion of names. -/
structure IsWritten (name : Text → Prop) (field : TemplateField) (pattern : Text) : Prop where
  form : HasForm name field pattern
  tokens : ∃ l : Layout, l.text = pattern ∧ ∀ token ∈ l.tokens, IsToken field token

theorem hasForm_iff :
    HasForm PassesAsName field pattern ↔
      IsRooted field pattern ∧ plainFault? field pattern = none := by
  cases field with
  | description => simp [HasForm, IsRooted, plainFault?]
  | fileName =>
    rw [HasForm, ← isFileName_iff, plainFault?]
    simp [IsRooted]
  | directory =>
    unfold HasForm IsRooted plainFault?
    cases pattern with
    | nil => simp
    | cons c path =>
      cases path with
      | nil => simp
      | cons d path =>
        simp [isFileName_iff]

theorem Layout.exists_braced {l : Layout} (member : token ∈ l.tokens) :
    ∃ content, token = braced content := by
  induction l with
  | plain => cases member
  | group before content rest _ _ _ ih =>
    rcases List.mem_cons.mp member with rfl | later
    · exact ⟨content, rfl⟩
    · exact ih later

theorem Layout.passes_iff {l : Layout} (member : token ∈ l.tokens) :
    Passes field token ↔ IsToken field token ∧ IsReadable token := by
  obtain ⟨content, rfl⟩ := exists_braced member
  exact passes_braced

theorem Layout.isSupported_eq_error {l : Layout} (member : token ∈ l.tokens) :
    isSupported field token = .error f ↔ IsLongToken token f := by
  obtain ⟨content, rfl⟩ := exists_braced member
  rw [Naming.isSupported_eq_error]
  constructor
  · intro long
    exact ⟨content, rfl, long⟩
  · rintro ⟨c, same, long⟩
    rwa [← braced_content content, same, braced_content]

/-- What a check makes of a pattern: it goes on to the tokens and the text around them, or it finds
a fault at once. -/
theorem patternFault?_cases (field : TemplateField) (pattern : Text) :
    (∃ tokens, IsRooted field pattern ∧ tokens? pattern = some tokens ∧
      patternFault? field pattern =
        (tokenFault? field tokens).map (·.or (plainFault? field pattern))) ∨
    ((IsRooted field pattern → tokens? pattern = none) ∧
      ∃ p, patternFault? field pattern = .ok (some p)) := by
  unfold patternFault? IsRooted
  split
  · next unrooted => exact .inr ⟨fun rooted => absurd (rooted unrooted.1) unrooted.2, _, rfl⟩
  · next rooted =>
    cases tokens? pattern with
    | none => exact .inr ⟨fun _ => rfl, _, rfl⟩
    | some tokens =>
      have start : field = .directory → pattern.head? = some '/' := fun directory =>
        not_not.mp fun other => rooted ⟨directory, other⟩
      refine .inl ⟨tokens, start, rfl, ?_⟩
      dsimp only
      cases tokenFault? field tokens with
      | error f => rfl
      | ok fault => cases fault <;> rfl

theorem patternFault?_eq_none :
    patternFault? field pattern = .ok none ↔
      IsRooted field pattern ∧ plainFault? field pattern = none ∧
        ∃ tokens, tokens? pattern = some tokens ∧ ∀ token ∈ tokens, Passes field token := by
  rcases patternFault?_cases field pattern with ⟨tokens, rooted, read, same⟩ | ⟨unread, p, same⟩
  · rw [same, map_eq_ok, read, and_iff_right rooted]
    simp only [Option.or_eq_none_iff, Option.some.injEq, ← tokenFault?_eq_none]
    constructor
    · rintro ⟨fault, checked, rfl, plain⟩
      exact ⟨plain, tokens, rfl, checked⟩
    · rintro ⟨plain, ts, rfl, checked⟩
      exact ⟨none, checked, rfl, plain⟩
  · rw [same]
    refine ⟨nofun, ?_⟩
    rintro ⟨rooted, -, tokens, read, -⟩
    cases (unread rooted).symm.trans read

theorem patternFault?_eq_error :
    patternFault? field pattern = .error f ↔
      IsRooted field pattern ∧
        ∃ tokens, tokens? pattern = some tokens ∧ StopsAt field tokens f := by
  rcases patternFault?_cases field pattern with ⟨tokens, rooted, read, same⟩ | ⟨unread, p, same⟩
  · rw [same, map_eq_error, read, and_iff_right rooted, tokenFault?_eq_error]
    simp
  · rw [same]
    refine ⟨nofun, ?_⟩
    rintro ⟨rooted, tokens, read, -⟩
    cases (unread rooted).symm.trans read

/-! ### The language -/

theorem hasForm_isName :
    HasForm IsName field pattern ↔
      HasForm PassesAsName field pattern ∧ (field = .description ∨ '\n' ∉ pattern) := by
  cases field with
  | description => simp [HasForm]
  | fileName => simp [HasForm, isName_iff]
  | directory =>
    have clean (path : Text) : '\n' ∉ '/' :: path ↔ ∀ s ∈ Text.pieces '/' path, '\n' ∉ s := by
      rw [List.mem_cons, or_iff_right (by decide), Text.mem_iff_mem_pieces (c := '/') (by decide)]
      simp
    simp only [HasForm, isName_iff, forall_and, reduceCtorEq, false_or]
    constructor
    · rintro ⟨path, rfl, rfl | ⟨names, breaks⟩⟩
      · exact ⟨⟨[], rfl, .inl rfl⟩, by decide⟩
      · exact ⟨⟨path, rfl, .inr names⟩, (clean path).mpr breaks⟩
    · rintro ⟨⟨path, rfl, empty | names⟩, breaks⟩
      · exact ⟨path, rfl, .inl empty⟩
      · exact ⟨path, rfl, .inr ⟨names, (clean path).mp breaks⟩⟩

/-- A check accepts what is written in the language of its field, with a line feed after names let
through, if its path numbers can be read. It has no answer exactly if its tokens are in the language
up to one with a number that is too long. Where no line feed stands, names are what file systems
take. -/
theorem accepted_iff_written (field : TemplateField) (pattern : Text) :
    (patternFault? field pattern = .ok none ↔
      IsWritten PassesAsName field pattern ∧
        ∀ l : Layout, l.text = pattern → ∀ token ∈ l.tokens, IsReadable token) ∧
    (∀ f, patternFault? field pattern = .error f ↔
      IsRooted field pattern ∧ ∃ l : Layout, l.text = pattern ∧
        ∃ before token after, l.tokens = before ++ token :: after ∧
          (∀ t ∈ before, IsToken field t ∧ IsReadable t) ∧ IsLongToken token f) ∧
    (IsWritten IsName field pattern ↔
      IsWritten PassesAsName field pattern ∧ (field = .description ∨ '\n' ∉ pattern)) := by
  refine ⟨?_, ?_, ?_⟩
  · rw [patternFault?_eq_none, ← and_assoc, ← hasForm_iff]
    constructor
    · rintro ⟨form, tokens, read, passes⟩
      obtain ⟨l, rfl, rfl⟩ := exists_layout read
      have inLanguage : ∀ token ∈ l.tokens, IsToken field token ∧ IsReadable token :=
        fun token member => (Layout.passes_iff member).mp (passes token member)
      refine ⟨⟨form, l, rfl, fun token member => (inLanguage token member).1⟩, ?_⟩
      intro l' same token member
      obtain rfl := Layout.text_injective same
      exact (inLanguage token member).2
    · rintro ⟨⟨form, l, rfl, tokens⟩, readable⟩
      refine ⟨form, l.tokens, tokens?_text l, fun token member => ?_⟩
      exact (Layout.passes_iff member).mpr ⟨tokens token member, readable l rfl token member⟩
  · intro f
    rw [patternFault?_eq_error]
    refine and_congr_right fun _ => ?_
    constructor
    · rintro ⟨tokens, read, before, token, after, cut, earlier, unread⟩
      obtain ⟨l, rfl, rfl⟩ := exists_layout read
      have first : token ∈ l.tokens := by simp [cut]
      refine ⟨l, rfl, before, token, after, cut, ?_, (Layout.isSupported_eq_error first).mp unread⟩
      intro t member
      have inside : t ∈ l.tokens := by simp [cut, member]
      exact (Layout.passes_iff inside).mp (earlier t member)
    · rintro ⟨l, rfl, before, token, after, cut, earlier, long⟩
      have first : token ∈ l.tokens := by simp [cut]
      refine ⟨l.tokens, tokens?_text l, before, token, after, cut, ?_,
        (Layout.isSupported_eq_error first).mpr long⟩
      intro t member
      have inside : t ∈ l.tokens := by simp [cut, member]
      exact (Layout.passes_iff inside).mpr (earlier t member)
  · constructor
    · rintro ⟨form, tokens⟩
      obtain ⟨loose, breaks⟩ := hasForm_isName.mp form
      exact ⟨⟨loose, tokens⟩, breaks⟩
    · rintro ⟨⟨loose, tokens⟩, breaks⟩
      exact ⟨hasForm_isName.mpr ⟨loose, breaks⟩, tokens⟩

/-- A path parameter with a number of `n + 1` digits. -/
def onesToken (n : Nat) : Text := braced ("path-" ++ List.replicate (n + 1) '1')

theorem isNumeral_ones (n : Nat) : Text.isNumeral (List.replicate (n + 1) '1') = true := by
  simp [Text.isNumeral]

theorem onesToken_isToken (field : TemplateField) (n : Nat) : IsToken field (onesToken n) := by
  have positive : 0 < Text.value (List.replicate (n + 1) '1') := by
    rw [Text.value, List.map_replicate, List.replicate_succ]
    exact Text.le_ofDigits_foldl (List.replicate n 1) 1
  refine ⟨"path-" ++ List.replicate (n + 1) '1', rfl, .path (isNumeral_ones n) positive, ?_⟩
  have word : List.any "path-" isRefused = false := by decide
  intro c member
  simp only [onesToken, braced, List.mem_cons, List.mem_append, List.mem_replicate,
    List.not_mem_nil, or_false] at member
  rcases member with rfl | (inWord | ⟨-, rfl⟩) | rfl
  · decide
  · exact eq_false_of_ne_true (List.any_eq_false.mp word c inWord)
  · decide
  · decide

theorem onesContent_plain (n : Nat) : IsPlain ("path-" ++ List.replicate n '1') := by
  have word : IsPlain "path-" := by decide
  intro c member
  rcases List.mem_append.mp member with inWord | digit
  · exact word c inWord
  · rw [(List.mem_replicate.mp digit).2]
    decide

/-- The layout of a pattern that is one token with a path number. -/
def onesLayout (n : Nat) : Layout :=
  .group [] ("path-" ++ List.replicate (n + 1) '1') (.plain [] isPlain_nil) isPlain_nil
    (onesContent_plain _) (List.append_ne_nil_of_right_ne_nil _ (List.cons_ne_nil _ _))

theorem onesLayout_text (n : Nat) : (onesLayout n).text = onesToken n := by
  simp [onesLayout, Layout.text, onesToken]

theorem onesToken_isWritten (n : Nat) : IsWritten IsName .description (onesToken n) := by
  refine ⟨trivial, onesLayout n, onesLayout_text n, ?_⟩
  intro token member
  rw [List.mem_singleton.mp member]
  exact onesToken_isToken .description n

theorem tokens?_onesToken (n : Nat) : tokens? (onesToken n) = some [onesToken n] := by
  rw [← onesLayout_text, tokens?_text, onesLayout_text]
  rfl

theorem patternFault?_onesToken {n : Nat} (long : Text.digitLimit ≤ n) :
    patternFault? .description (onesToken n) = .error ⟨n + 1⟩ := by
  have isLong : IsLong ("path-" ++ List.replicate (n + 1) '1') ⟨n + 1⟩ := by
    refine ⟨_, rfl, isNumeral_ones n, ?_, ?_⟩
    · rw [List.length_replicate]
      omega
    · rw [List.length_replicate]
  exact patternFault?_eq_error.mpr ⟨nofun, _, tokens?_onesToken n, [], _, [], rfl, by simp,
    isSupported_eq_error.mpr isLong⟩

/-- A text that is no name in a file system passes as one, and a pattern in the language of
descriptions has no answer. -/
theorem line_feed_accepted_long_number_unanswered :
    (patternFault? .fileName "a\n" = .ok none ∧ ¬ IsWritten IsName .fileName "a\n") ∧
    (IsWritten IsName .description (onesToken Text.digitLimit) ∧
      patternFault? .description (onesToken Text.digitLimit) = .error ⟨Text.digitLimit + 1⟩) := by
  refine ⟨⟨by decide +kernel, ?_⟩, onesToken_isWritten _, patternFault?_onesToken (Nat.le_refl _)⟩
  intro written
  exact absurd (written.form.2 '\n' (by decide)) (by decide)

end Naming

end ImageFiling
