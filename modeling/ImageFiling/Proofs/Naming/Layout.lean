import ImageFiling.Naming.Braces

/-!
# Layouts of patterns

A layout cuts a pattern into plain text and groups. A text has one layout at most
(`Layout.text_injective`), and it has one if a scan from left to right accepts it
(`scan_accepts_iff`).
-/

namespace ImageFiling.Naming

def IsPlain (t : Text) : Prop := ∀ c ∈ t, isPlain c = true

instance (t : Text) : Decidable (IsPlain t) := List.decidableBAll _ t

theorem isPlain_nil : IsPlain [] := by simp [IsPlain]

/-- A text between braces, with them. -/
def braced (content : Text) : Text := '\x7b' :: (content ++ ['\x7d'])

/-- Plain text, or plain text with a group after it and a layout of what follows. -/
inductive Layout where
  | plain (t : Text) (t_plain : IsPlain t)
  | group (before content : Text) (rest : Layout) (before_plain : IsPlain before)
    (content_plain : IsPlain content) (content_ne_nil : content ≠ [])

namespace Layout

def text : Layout → Text
  | plain t _ => t
  | group before content rest _ _ _ => before ++ (braced content ++ rest.text)

/-- The groups of a layout with their braces, from left to right. -/
def tokens : Layout → List Text
  | plain _ _ => []
  | group _ content rest _ _ _ => braced content :: rest.tokens

end Layout

theorem isPlain_opening : isPlain '\x7b' = false := by decide

theorem isPlain_closing : isPlain '\x7d' = false := by decide

/-- Plain text ends at the first brace. -/
theorem plain_append_cons_inj {p q t u : Text} {x y : Char} (p_plain : IsPlain p)
    (q_plain : IsPlain q) (hx : isPlain x = false) (hy : isPlain y = false)
    (same : p ++ x :: t = q ++ y :: u) : p = q ∧ x = y ∧ t = u := by
  have left := congrArg (List.takeWhile isPlain) same
  rw [List.takeWhile_append_of_pos p_plain, List.takeWhile_append_of_pos q_plain,
    List.takeWhile_cons_of_neg (by simp [hx]), List.takeWhile_cons_of_neg (by simp [hy]),
    List.append_nil, List.append_nil] at left
  subst left
  obtain ⟨rfl, rfl⟩ := List.cons.inj (List.append_cancel_left same)
  exact ⟨rfl, rfl, rfl⟩

theorem not_isPlain_append_cons {p t : Text} {x : Char} (hx : isPlain x = false) :
    ¬ IsPlain (p ++ x :: t) := by
  intro whole
  have inside := whole x (List.mem_append_right p List.mem_cons_self)
  rw [hx] at inside
  cases inside

theorem braced_append (content t : Text) :
    braced content ++ t = '\x7b' :: (content ++ '\x7d' :: t) := by
  simp [braced]

theorem braced_append_inj {a b t u : Text} (a_plain : IsPlain a) (b_plain : IsPlain b)
    (same : braced a ++ t = braced b ++ u) : a = b ∧ t = u := by
  rw [braced_append, braced_append, List.cons.injEq] at same
  obtain ⟨equal, -, rest⟩ :=
    plain_append_cons_inj a_plain b_plain isPlain_closing isPlain_closing same.2
  exact ⟨equal, rest⟩

theorem Layout.text_injective {l l' : Layout} (same : l.text = l'.text) : l = l' := by
  induction l generalizing l' with
  | plain t t_plain =>
    cases l' with
    | plain t' _ => cases same; rfl
    | group before content rest =>
      rw [text, text, braced_append] at same
      exact absurd (same ▸ t_plain) (not_isPlain_append_cons isPlain_opening)
  | group before content rest before_plain content_plain _ ih =>
    cases l' with
    | plain t' t'_plain =>
      rw [text, text, braced_append] at same
      exact absurd (same ▸ t'_plain) (not_isPlain_append_cons isPlain_opening)
    | group before' content' rest' before'_plain content'_plain =>
      rw [text, text, braced_append, braced_append] at same
      obtain ⟨rfl, -, groups⟩ := plain_append_cons_inj before_plain before'_plain isPlain_opening
        isPlain_opening same
      obtain ⟨rfl, -, rests⟩ := plain_append_cons_inj content_plain content'_plain isPlain_closing
        isPlain_closing groups
      rw [ih rests]

/-! ### The scan -/

/-- Where a scan of a pattern stands. -/
inductive Place where
  | outside
  /-- Directly after an opening brace. -/
  | opened
  | inside
  deriving DecidableEq, Repr

/-- The place after a character that is no brace. -/
def Place.onward (p : Place) : Place := if p = outside then outside else inside

/-- The place after a character. There is none after a closing brace outside a group or directly
after an opening one, and none after an opening brace in a group. -/
def Place.after? (p : Place) (c : Char) : Option Place :=
  if c = '\x7b' then if p = outside then some opened else none
  else if c = '\x7d' then if p = inside then some outside else none
  else some p.onward

def scan (p : Place) (t : Text) : Option Place := t.foldlM Place.after? p

theorem scan_append (p : Place) (t u : Text) : scan p (t ++ u) = (scan p t).bind (scan · u) :=
  List.foldlM_append

theorem scan_cons (p : Place) (c : Char) (t : Text) :
    scan p (c :: t) = (p.after? c).bind (scan · t) :=
  List.foldlM_cons

theorem after?_of_isPlain {c : Char} (c_plain : isPlain c = true) (p : Place) :
    p.after? c = some p.onward := by
  have braces : c ≠ '\x7b' ∧ c ≠ '\x7d' := by simpa [isPlain] using c_plain
  rw [Place.after?, if_neg braces.1, if_neg braces.2]

theorem after?_cases {p q : Place} {c : Char} (step : p.after? c = some q) :
    (c = '\x7b' ∧ p = .outside ∧ q = .opened) ∨ (c = '\x7d' ∧ p = .inside ∧ q = .outside) ∨
      (isPlain c = true ∧ q = p.onward) := by
  unfold Place.after? at step
  split at step
  · next opening =>
    split at step
    · next place => exact .inl ⟨opening, place, (Option.some.inj step).symm⟩
    · cases step
  · next notOpening =>
    split at step
    · next closing =>
      split at step
      · next place => exact .inr (.inl ⟨closing, place, (Option.some.inj step).symm⟩)
      · cases step
    · next notClosing =>
      exact .inr (.inr ⟨by simp [isPlain, notOpening, notClosing], (Option.some.inj step).symm⟩)

theorem Place.onward_onward (p : Place) : p.onward.onward = p.onward := by
  cases p <;> rfl

theorem scan_plain {t : Text} (t_plain : IsPlain t) (t_ne_nil : t ≠ []) (p : Place) :
    scan p t = some p.onward := by
  induction t generalizing p with
  | nil => exact absurd rfl t_ne_nil
  | cons c t ih =>
    obtain ⟨first, others⟩ := List.forall_mem_cons.mp t_plain
    rw [scan_cons, after?_of_isPlain first, Option.bind_some]
    by_cases last : t = []
    · subst last
      rfl
    · rw [ih others last, Place.onward_onward]

theorem scan_outside_of_plain {t : Text} (t_plain : IsPlain t) :
    scan .outside t = some .outside := by
  by_cases empty : t = []
  · subst empty
    rfl
  · exact scan_plain t_plain empty .outside

theorem scan_braced {content : Text} (content_plain : IsPlain content)
    (content_ne_nil : content ≠ []) : scan .outside (braced content) = some .outside := by
  have opens : Place.after? .outside '\x7b' = some .opened := rfl
  rw [braced, scan_cons, opens, Option.bind_some, scan_append,
    scan_plain content_plain content_ne_nil]
  rfl

theorem Layout.scan_text (l : Layout) : scan .outside l.text = some .outside := by
  induction l with
  | plain t t_plain => exact scan_outside_of_plain t_plain
  | group before content rest before_plain content_plain content_ne_nil ih =>
    rw [text, scan_append, scan_outside_of_plain before_plain, Option.bind_some, scan_append,
      scan_braced content_plain content_ne_nil, Option.bind_some, ih]

theorem Layout.exists_push {c : Char} (c_plain : isPlain c = true) (l : Layout) :
    ∃ l' : Layout, l'.text = c :: l.text := by
  cases l with
  | plain t t_plain =>
    exact ⟨plain (c :: t) (List.forall_mem_cons.mpr ⟨c_plain, t_plain⟩), rfl⟩
  | group before content rest before_plain content_plain content_ne_nil =>
    exact ⟨group (c :: before) content rest (List.forall_mem_cons.mpr ⟨c_plain, before_plain⟩)
      content_plain content_ne_nil, rfl⟩

theorem IsPlain.exists_cut {x : Char} {t : Text} (t_plain : IsPlain t) (member : x ∈ t) :
    ∃ p q, t = p ++ x :: q ∧ x ∉ p ∧ IsPlain p ∧ IsPlain q := by
  obtain ⟨p, q, rfl, first⟩ := List.eq_append_cons_of_mem member
  obtain ⟨p_plain, rest_plain⟩ := List.forall_mem_append.mp t_plain
  exact ⟨p, q, rfl, first, p_plain, (List.forall_mem_cons.mp rest_plain).2⟩

/-- A layout can be cut where a character that stands in none of its tokens comes first. -/
theorem Layout.exists_cut {x : Char} {l : Layout} (outside : ∀ token ∈ l.tokens, x ∉ token)
    (member : x ∈ l.text) :
    ∃ a b : Layout, l.text = a.text ++ x :: b.text ∧ x ∉ a.text ∧ l.tokens = a.tokens ++ b.tokens := by
  induction l with
  | plain t t_plain =>
    obtain ⟨p, q, cut, first, p_plain, q_plain⟩ := t_plain.exists_cut member
    exact ⟨plain p p_plain, plain q q_plain, cut, first, rfl⟩
  | group before content rest before_plain content_plain content_ne_nil ih =>
    obtain ⟨notHere, others⟩ := List.forall_mem_cons.mp outside
    by_cases inBefore : x ∈ before
    · obtain ⟨p, q, rfl, first, p_plain, q_plain⟩ := before_plain.exists_cut inBefore
      exact ⟨plain p p_plain, group q content rest q_plain content_plain content_ne_nil,
        List.append_assoc .., first, rfl⟩
    · have further := (List.mem_append.mp member).resolve_left inBefore
      have later := (List.mem_append.mp further).resolve_left notHere
      obtain ⟨a, b, cut, first, shared⟩ := ih others later
      refine ⟨group before content a before_plain content_plain content_ne_nil, b, ?_, ?_, ?_⟩
      · rw [text, text, cut, List.append_assoc, List.append_assoc]
      · rw [text, List.mem_append, List.mem_append]
        rintro (here | inToken | there)
        · exact inBefore here
        · exact notHere inToken
        · exact first there
      · rw [tokens, tokens, shared, List.cons_append]

/-- What is left to read at a place when the scan accepts. -/
def Remaining : Place → Text → Prop
  | .outside, t => ∃ l : Layout, t = l.text
  | .opened, t => ∃ content, content ≠ [] ∧ IsPlain content ∧
      ∃ l : Layout, t = content ++ '\x7d' :: l.text
  | .inside, t => ∃ content, IsPlain content ∧ ∃ l : Layout, t = content ++ '\x7d' :: l.text

theorem remaining_of_scan {p : Place} {t : Text} (accepted : scan p t = some .outside) :
    Remaining p t := by
  induction t generalizing p with
  | nil =>
    cases Option.some.inj accepted
    exact ⟨.plain [] isPlain_nil, rfl⟩
  | cons c t ih =>
    rw [scan_cons, Option.bind_eq_some_iff] at accepted
    obtain ⟨q, step, later⟩ := accepted
    have rest := ih later
    rcases after?_cases step with ⟨rfl, rfl, rfl⟩ | ⟨rfl, rfl, rfl⟩ | ⟨c_plain, rfl⟩
    · obtain ⟨content, content_ne_nil, content_plain, l, rfl⟩ := rest
      exact ⟨.group [] content l isPlain_nil content_plain content_ne_nil,
        (braced_append content l.text).symm⟩
    · obtain ⟨l, rfl⟩ := rest
      exact ⟨[], isPlain_nil, l, rfl⟩
    · cases p with
      | outside =>
        obtain ⟨l, rfl⟩ := rest
        obtain ⟨l', pushed⟩ := l.exists_push c_plain
        exact ⟨l', pushed.symm⟩
      | opened =>
        obtain ⟨content, content_plain, l, rfl⟩ := rest
        exact ⟨c :: content, List.cons_ne_nil c content,
          List.forall_mem_cons.mpr ⟨c_plain, content_plain⟩, l, rfl⟩
      | inside =>
        obtain ⟨content, content_plain, l, rfl⟩ := rest
        exact ⟨c :: content, List.forall_mem_cons.mpr ⟨c_plain, content_plain⟩, l, rfl⟩

theorem scan_accepts_iff {t : Text} :
    scan .outside t = some .outside ↔ ∃ l : Layout, l.text = t := by
  constructor
  · intro accepted
    obtain ⟨l, whole⟩ := remaining_of_scan accepted
    exact ⟨l, whole.symm⟩
  · rintro ⟨l, rfl⟩
    exact l.scan_text

end ImageFiling.Naming
