import ImageFiling.Naming.Parameter
import ImageFiling.Proofs.Naming.Braces
import ImageFiling.Proofs.Result
import ImageFiling.Session.Failure

/-!
# Substitution by layout

A pattern is filled group by group along its layout. The first group that cannot be resolved
decides the failure, and what a group becomes is not read again, so that patterns can be filled
apart and put together afterwards (`substitute_by_layout`).
-/

namespace ImageFiling

namespace Regex

variable {ε : Type}

theorem fill_between (f : Text → Except ε Text) (t : Text) (ps : List Part) :
    fill f (t.map .between ++ ps) = (fill f ps).map (t ++ ·) := by
  induction t with
  | nil => cases h : fill f ps <;> simp [h, Except.map]
  | cons c t ih =>
    rw [List.map_cons, List.cons_append, fill, ih]
    cases fill f ps <;> rfl

theorem fill_append (f : Text → Except ε Text) (ps qs : List Part) :
    fill f (ps ++ qs) = do
      let t ← fill f ps
      let u ← fill f qs
      return t ++ u := by
  induction ps with
  | nil =>
    rw [List.nil_append, fill]
    cases fill f qs <;> rfl
  | cons p ps ih =>
    cases p with
    | between c =>
      rw [List.cons_append, fill, fill, ih]
      cases fill f ps
      · rfl
      · cases fill f qs <;> rfl
    | found t =>
      rw [List.cons_append, fill, fill, ih]
      cases f t
      · rfl
      · cases fill f ps
        · rfl
        · cases fill f qs
          · rfl
          · simp [bind, Except.bind, pure, Except.pure]

end Regex

namespace Naming

open Regex

/-- The text of a layout with `g` of each token in the token's place. -/
def Layout.filled (g : Text → Text) : Layout → Text
  | plain t _ => t
  | group before content rest _ _ _ => before ++ (g (braced content) ++ rest.filled g)

section

variable {ε : Type} {f : Text → Except ε Text}

theorem fill_group (before content : Text) (rest : List Part) :
    fill f (before.map .between ++ .found (braced content) :: rest) = do
      let t ← f (braced content)
      let u ← fill f rest
      return before ++ (t ++ u) := by
  rw [fill_between, fill]
  cases f (braced content)
  · rfl
  · cases fill f rest <;> rfl

theorem Layout.fill_parts {l : Layout} {g : Text → Text}
    (resolved : ∀ t ∈ l.tokens, f t = .ok (g t)) : fill f l.parts = .ok (l.filled g) := by
  induction l with
  | plain t t_plain =>
    have filled := fill_between f t []
    rw [List.append_nil] at filled
    rw [parts, filled, fill, Layout.filled, Except.map, List.append_nil]
  | group before content rest _ _ _ ih =>
    obtain ⟨first, others⟩ := List.forall_mem_cons.mp resolved
    rw [parts, fill_group, first, ih others]
    rfl

/-- The first token that fails decides. -/
theorem Layout.fill_parts_error {l : Layout} {before after : List Text} {t : Text} {e : ε}
    (cut : l.tokens = before ++ t :: after) (resolved : ∀ u ∈ before, ∃ r, f u = .ok r)
    (failed : f t = .error e) : fill f l.parts = .error e := by
  induction l generalizing before with
  | plain p _ => simp [tokens] at cut
  | group first content rest _ _ _ ih =>
    rw [parts, fill_group]
    cases before with
    | nil =>
      obtain ⟨rfl, -⟩ := List.cons.inj cut
      rw [failed]
      rfl
    | cons u before =>
      obtain ⟨rfl, later⟩ := List.cons.inj cut
      obtain ⟨⟨r, done⟩, others⟩ := List.forall_mem_cons.mp resolved
      rw [done, ih later others]
      rfl

/-- What stands in a filled layout comes from the layout or from the text of a token. -/
theorem Layout.source_of_mem {l : Layout} {r : Text} {x : Char} (filled : fill f l.parts = .ok r)
    (member : x ∈ r) : x ∈ l.text ∨ ∃ t ∈ l.tokens, ∃ u, f t = .ok u ∧ x ∈ u := by
  induction l generalizing r with
  | plain t t_plain =>
    have same := (Layout.plain t t_plain).fill_parts (f := f) (g := id) (by simp [tokens])
    cases same.symm.trans filled
    exact .inl member
  | group before content rest _ _ _ ih =>
    rw [parts, fill_group] at filled
    obtain ⟨u, first, later⟩ := bind_eq_ok.mp filled
    obtain ⟨v, others, whole⟩ := bind_eq_ok.mp later
    cases whole
    rcases List.mem_append.mp member with inBefore | further
    · exact .inl (List.mem_append_left _ inBefore)
    rcases List.mem_append.mp further with inToken | inRest
    · exact .inr ⟨braced content, List.mem_cons_self, u, first, inToken⟩
    · rcases ih others inRest with inText | ⟨t, token, w, resolved, inside⟩
      · exact .inl (List.mem_append_right _ (List.mem_append_right _ inText))
      · exact .inr ⟨t, List.mem_cons_of_mem _ token, w, resolved, inside⟩

/-- The text of every token stands in a filled layout. -/
theorem Layout.exists_infix_of_mem {l : Layout} {r t : Text} (filled : fill f l.parts = .ok r)
    (token : t ∈ l.tokens) : ∃ u, f t = .ok u ∧ u <:+: r := by
  induction l generalizing r with
  | plain => cases token
  | group before content rest _ _ _ ih =>
    rw [parts, fill_group] at filled
    obtain ⟨u, first, later⟩ := bind_eq_ok.mp filled
    obtain ⟨v, others, whole⟩ := bind_eq_ok.mp later
    cases whole
    rcases List.mem_cons.mp token with rfl | inRest
    · exact ⟨u, first, before, v, List.append_assoc ..⟩
    · obtain ⟨w, resolved, inside⟩ := ih others inRest
      have further := inside.trans (List.suffix_append u v).isInfix
      exact ⟨w, resolved, further.trans (List.suffix_append before _).isInfix⟩

end

theorem substitute_eq {t : Text} (matched : hasMatchedBraces t = true) (c : Context) :
    substitute c t = fill (resolve c) (token.parts t) := by
  rw [substitute, isNone_tokens?, matched]
  rfl

theorem substitute_text (c : Context) (l : Layout) :
    substitute c l.text = fill (resolve c) l.parts := by
  rw [substitute_eq (hasMatchedBraces_text l), parts_eq]

theorem substitute_of_not_matched {t : Text} (unmatched : hasMatchedBraces t = false)
    (c : Context) : substitute c t = .error (.malformed t) := by
  rw [substitute, isNone_tokens?, unmatched]
  rfl

theorem substitute_plain_cons {c : Context} {x : Char} {t u : Text} (x_plain : isPlain x = true)
    (filled : substitute c (x :: t) = .ok u) : u.head? = some x := by
  cases matched : hasMatchedBraces (x :: t) with
  | false =>
    rw [substitute_of_not_matched matched] at filled
    cases filled
  | true =>
    rw [substitute_eq matched, Regex.parts_of_none (start?_plain x_plain t), Regex.fill,
      map_eq_ok] at filled
    obtain ⟨rest, -, rfl⟩ := filled
    rfl

/-- Plain text before a layout is kept. -/
theorem substitute_cons {x : Char} (x_plain : isPlain x = true) (c : Context) (l : Layout) :
    substitute c (x :: l.text) = (substitute c l.text).map (x :: ·) := by
  obtain ⟨l', pushed⟩ := l.exists_push x_plain
  rw [← pushed, substitute_eq (hasMatchedBraces_text l'), pushed,
    parts_of_none (start?_plain x_plain _), fill, substitute_eq (hasMatchedBraces_text l)]

theorem hasMatchedBraces_append {a b : Text} (ha : hasMatchedBraces a = true)
    (hb : hasMatchedBraces b = true) : hasMatchedBraces (a ++ b) = true := by
  rw [hasMatchedBraces_iff] at *
  rw [scan_append, ha, Option.bind_some, hb]

theorem substitute_append (c : Context) (a b : Layout) :
    substitute c (a.text ++ b.text) = do
      let t ← substitute c a.text
      let u ← substitute c b.text
      return t ++ u := by
  have whole := hasMatchedBraces_append (hasMatchedBraces_text a) (hasMatchedBraces_text b)
  rw [substitute_eq whole, parts_text, parts_eq, fill_append, substitute_text, substitute_text]

/-- A pattern with a layout becomes the layout's text with each token replaced, or fails as its
first token that cannot be resolved fails; one without a layout fails for itself, without a token.
Two patterns put together become what they become apart, and the failure of the first goes first. -/
theorem substitute_by_layout (c : Context) :
    (∀ (l : Layout) (g : Text → Text), (∀ t ∈ l.tokens, resolve c t = .ok (g t)) →
      substitute c l.text = .ok (l.filled g)) ∧
    (∀ (l : Layout) (before : List Text) (t : Text) (after : List Text) (f : NamingFault),
      l.tokens = before ++ t :: after → (∀ u ∈ before, ∃ r, resolve c u = .ok r) →
      resolve c t = .error f → substitute c l.text = .error f) ∧
    (∀ t, (¬ ∃ l : Layout, l.text = t) → ∃ f, substitute c t = .error f ∧ f.kind = .template ∧
      f.token? = none ∧ f.message = "Template is not well-formed: " ++ t) ∧
    (∀ a b : Layout, substitute c (a.text ++ b.text) = do
      let t ← substitute c a.text
      let u ← substitute c b.text
      return t ++ u) := by
  refine ⟨?_, ?_, ?_, substitute_append c⟩
  · intro l g resolved
    rw [substitute_text, l.fill_parts resolved]
  · intro l before t after f cut resolved failed
    rw [substitute_text, l.fill_parts_error cut resolved failed]
  · intro t none
    have unmatched : hasMatchedBraces t = false := by
      rw [← Bool.not_eq_true, hasMatchedBraces_iff, scan_accepts_iff]
      exact none
    exact ⟨.malformed t, substitute_of_not_matched unmatched c, rfl, rfl, rfl⟩

/-- `{title} at {host}` -/
def caption : Layout :=
  .group [] "title"
    (.group " at " "host" (.plain [] (by decide)) (by decide) (by decide) (by decide))
    (by decide) (by decide) (by decide)

/-- A page whose title looks like a token. -/
def captionPage : Context where
  url := "https://example.org/"
  title := "\x7bhost\x7d"
  now := ⟨⟨2024, 2, 29⟩, 0, 0, 0, 0, .ok 0⟩
  field := .fileName

theorem caption_keeps_title :
    ∃ g : Text → Text, (∀ t ∈ caption.tokens, resolve captionPage t = .ok (g t)) ∧
      substitute captionPage caption.text = .ok (caption.filled g) ∧
      caption.filled g = "\x7bhost\x7d at example.org" := by
  let g : Text → Text := fun t => if t = braced "title" then "\x7bhost\x7d" else "example.org"
  have resolved : ∀ t ∈ caption.tokens, resolve captionPage t = .ok (g t) := by decide +kernel
  exact ⟨g, resolved, (substitute_by_layout captionPage).1 caption g resolved, by decide +kernel⟩

end Naming

end ImageFiling
