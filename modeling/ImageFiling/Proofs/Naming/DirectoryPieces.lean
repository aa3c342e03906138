import ImageFiling.Proofs.Naming.DatedNames
import ImageFiling.Proofs.Url.Host

/-!
# Directories piece by piece

No host, no part of a path and no date holds a slash. A directory pattern of such parameters can
therefore be cut at its slashes before it is filled or afterwards (`substitute_pieces`): a page
cannot move its images into other directories than those of the pattern.
-/

namespace ImageFiling.Naming

/-! ### Patterns whose tokens hold no separator -/

variable {c : Context} {x : Char}

/-- Two layouts with a plain character between them are filled apart. -/
theorem substitute_append_cons (x_plain : isPlain x = true) (c : Context) (a b : Layout) :
    substitute c (a.text ++ x :: b.text) = do
      let t ← substitute c a.text
      let u ← substitute c b.text
      return t ++ x :: u := by
  obtain ⟨b', pushed⟩ := b.exists_push x_plain
  rw [← pushed, substitute_append, pushed, substitute_cons x_plain]
  cases substitute c a.text with
  | error f => rfl
  | ok t => cases substitute c b.text <;> rfl

/-- A character does not come into a filled layout if it stands neither in the layout nor in the texts
of its tokens. -/
theorem not_mem_of_substitute {l : Layout} {r : Text} (filled : substitute c l.text = .ok r)
    (outside : x ∉ l.text) (texts : ∀ token ∈ l.tokens, ∀ u, resolve c token = .ok u → x ∉ u) :
    x ∉ r := by
  intro member
  rw [substitute_text] at filled
  rcases l.source_of_mem filled member with inText | ⟨token, inTokens, u, resolved, inside⟩
  · exact outside inText
  · exact texts token inTokens u resolved inside

/-- Where tokens and their texts do not hold a plain character, a pattern may be cut at it before it
is filled or afterwards. -/
theorem substitute_pieces_of_layout (x_plain : isPlain x = true) (l : Layout)
    (outside : ∀ token ∈ l.tokens, x ∉ token)
    (texts : ∀ token ∈ l.tokens, ∀ u, resolve c token = .ok u → x ∉ u) :
    (Text.pieces x l.text).mapM (substitute c) = (substitute c l.text).map (Text.pieces x) := by
  -- On the length, since what follows the first separator is a layout of its own and no part of `l`.
  induction size : l.text.length using Nat.strong_induction_on generalizing l with
  | h n ih =>
    by_cases member : x ∈ l.text
    · obtain ⟨a, b, cut, first, shared⟩ := l.exists_cut outside member
      rw [shared] at outside texts
      obtain ⟨-, outside_b⟩ := List.forall_mem_append.mp outside
      obtain ⟨texts_a, texts_b⟩ := List.forall_mem_append.mp texts
      have shorter : b.text.length < n := by
        rw [← size, cut, List.length_append, List.length_cons]
        omega
      have later := ih b.text.length shorter b outside_b texts_b rfl
      rw [cut, Text.pieces_append_cons, Text.pieces_singleton first, List.singleton_append,
        List.mapM_cons, later, substitute_append_cons x_plain]
      cases filled : substitute c a.text with
      | error f => rfl
      | ok t =>
        have clean := not_mem_of_substitute filled first texts_a
        cases substitute c b.text with
        | error f => rfl
        | ok u =>
          have whole := Text.pieces_append_cons x t u
          rw [Text.pieces_singleton clean] at whole
          exact congrArg Except.ok whole.symm
    · rw [Text.pieces_singleton member, List.mapM_cons, List.mapM_nil]
      cases filled : substitute c l.text with
      | error f => rfl
      | ok r =>
        have clean := not_mem_of_substitute filled member texts
        exact congrArg Except.ok (Text.pieces_singleton clean).symm

/-! ### Parameters without a slash -/

/-- A parameter of the host, of the path or of the time. -/
inductive Parameter.IsPlaceOrTime : Parameter → Prop where
  | host : IsPlaceOrTime .host
  | path (number : Text) : IsPlaceOrTime (.path number)
  | date {p : Parameter} (dated : p.IsDate) : IsPlaceOrTime p

theorem slash_not_mem_resolved {field : TemplateField} {p : Parameter} {u : Text}
    (sort : p.IsPlaceOrTime) (supported : isSupported field p.token = .ok true)
    (clean : '/' ∉ p.token) (resolved : resolve c p.token = .ok u) : '/' ∉ u := by
  obtain ⟨parts, page⟩ := page_of_resolve resolved
  cases sort with
  | host =>
    rw [resolve_token page] at resolved
    cases resolved
    exact Url.slash_not_mem_host page
  | path number =>
    rw [resolve_token page] at resolved
    obtain ⟨-, -, -, n, -, piece⟩ := segment_eq_ok.mp resolved
    intro inside
    cases (Text.of_mem_piecesBy (List.mem_of_getElem? piece) inside).1
  | date dated =>
    obtain ⟨format, dated⟩ := dated
    have shown := format_of_resolve dated (Parameter.datePattern_ne_nil dated supported) resolved
    intro inside
    rcases Parameter.mem_dated dated shown inside with written | ink | ⟨colon, -⟩
    · exact clean written
    · exact absurd ink (by decide)
    · exact absurd colon (by decide)

/-! ### Directories -/

/-- An accepted directory pattern with parameters of the host, the path and the time alone is filled
piece by piece: it fails as the first of its pieces that cannot be filled fails, and else the pieces
of the directory are what the pieces of the pattern become, one for one and in order. The directory
starts at the root and has as many slashes as the pattern. -/
theorem substitute_pieces {pattern : Text} (c : Context)
    (accepted : patternFault? .directory pattern = .ok none)
    (places : HoldsOnly Parameter.IsPlaceOrTime pattern) :
    (Text.pieces '/' pattern).mapM (substitute c) = (substitute c pattern).map (Text.pieces '/') ∧
    ∀ r, substitute c pattern = .ok r →
      List.Forall₂ (fun piece u => substitute c piece = .ok u) (Text.pieces '/' pattern)
        (Text.pieces '/' r) ∧
      r.head? = some '/' ∧ r.count '/' = pattern.count '/' := by
  obtain ⟨rooted, -⟩ := patternFault?_eq_none.mp accepted
  obtain ⟨path, rfl⟩ := List.head?_eq_some_iff.mp (rooted rfl)
  obtain ⟨l, same, tokens⟩ := exists_layout_of_accepted accepted places
  have clean : ∀ token ∈ l.tokens, '/' ∉ token := by
    intro token member
    obtain ⟨p, rfl, -, -, free⟩ := tokens token member
    exact fun slash => absurd (free '/' slash) (by decide)
  have texts : ∀ token ∈ l.tokens, ∀ u, resolve c token = .ok u → '/' ∉ u := by
    intro token member u resolved
    obtain ⟨p, rfl, sort, supported, -⟩ := tokens token member
    exact slash_not_mem_resolved sort supported (clean p.token member) resolved
  have pieces := substitute_pieces_of_layout (by decide) l clean texts
  rw [same] at pieces
  refine ⟨pieces, ?_⟩
  intro r filled
  rw [filled] at pieces
  have matched := mapM_eq_ok.mp pieces
  refine ⟨matched, substitute_plain_cons (by decide) filled, ?_⟩
  have lengths := matched.length_eq
  rw [Text.length_pieces, Text.length_pieces] at lengths
  exact (Nat.succ.inj lengths).symm

/-- A page whose path has an encoded slash and whose port is not the usual one. -/
def shelfPage : Context where
  url := "https://Example.org:8443/a%2Fb/c"
  title := "/"
  now := ⟨⟨2024, 2, 29⟩, 12, 30, 0, 0, .ok 0⟩
  field := .directory

/-- `/{host}/{path-1} {now-YYYY}` -/
def shelfPattern : Text :=
  "/" ++ braced "host" ++ "/" ++ braced "path-1" ++ " " ++ braced "now-YYYY"

theorem shelf_filled_by_pieces :
    patternFault? .directory shelfPattern = .ok none ∧
    HoldsOnly Parameter.IsPlaceOrTime shelfPattern ∧
    ∃ r, substitute shelfPage shelfPattern = .ok r ∧ r = "/example.org:8443/a%2Fb 2024" ∧
      r.count '/' = shelfPattern.count '/' := by
  have accepted : patternFault? .directory shelfPattern = .ok none := by decide +kernel
  have read : tokens? shelfPattern = some [braced "host", braced "path-1", braced "now-YYYY"] := by
    decide +kernel
  have places : HoldsOnly Parameter.IsPlaceOrTime shelfPattern := by
    refine ⟨_, read, ?_⟩
    rintro token (_ | ⟨_, _ | ⟨_, _ | ⟨_, never⟩⟩⟩)
    · exact ⟨.host, .host, rfl⟩
    · exact ⟨.path "1", .path "1", rfl⟩
    · exact ⟨.date "YYYY", .date ⟨_, rfl⟩, rfl⟩
    · cases never
  have filled : substitute shelfPage shelfPattern = .ok "/example.org:8443/a%2Fb 2024" := by
    decide +kernel
  obtain ⟨-, -, counted⟩ := (substitute_pieces shelfPage accepted places).2 _ filled
  exact ⟨accepted, places, _, filled, rfl, counted⟩

end ImageFiling.Naming
