import ImageFiling.Proofs.Naming.Layout
import ImageFiling.Proofs.Text.Regex

/-!
# Which braces match

The expressions for braces accept exactly the texts that a single scan accepts, which are those with
a layout, and what is found in such a text is what its layout has as tokens
(`tokens_of_only_layout`).
-/

namespace ImageFiling.Naming

open Regex

theorem mem_opening {t : Text} : t ∈ opening.language ↔ t = ['\x7b'] := mem_one_beq

theorem mem_closing {t : Text} : t ∈ closing.language ↔ t = ['\x7d'] := mem_one_beq

theorem mem_token {t : Text} :
    t ∈ token.language ↔ ∃ content, content ≠ [] ∧ IsPlain content ∧ braced content = t := by
  constructor
  · rintro ⟨o, opens, -, ⟨content, inside, c, closes, rfl⟩, rfl⟩
    obtain ⟨content_ne_nil, content_plain⟩ := mem_atLeastOne_one.mp inside
    rw [mem_opening.mp opens, mem_closing.mp closes]
    exact ⟨content, content_ne_nil, content_plain, rfl⟩
  · rintro ⟨content, content_ne_nil, content_plain, rfl⟩
    refine mem_seq.mpr ⟨['\x7b'], mem_opening.mpr rfl, content ++ ['\x7d'], ?_, rfl⟩
    exact mem_seq.mpr ⟨content, mem_atLeastOne_one.mpr ⟨content_ne_nil, content_plain⟩, ['\x7d'],
      mem_closing.mpr rfl, rfl⟩

/-! ### Balanced texts -/

theorem scan_of_mem_balanced {t : Text} (balances : t ∈ balanced.language) :
    scan .outside t = some .outside := by
  obtain ⟨m, groups, last, last_plain, rfl⟩ := mem_seq.mp balances
  obtain ⟨ms, rfl, members⟩ := mem_many.mp groups
  clear balances groups
  induction ms with
  | nil => exact scan_outside_of_plain (mem_many_one.mp last_plain)
  | cons m ms ih =>
    obtain ⟨first, others⟩ := List.forall_mem_cons.mp members
    obtain ⟨before, before_plain, group, isToken, rfl⟩ := mem_seq.mp first
    obtain ⟨content, content_ne_nil, content_plain, rfl⟩ := mem_token.mp isToken
    rw [List.flatten_cons, List.append_assoc, List.append_assoc, scan_append,
      scan_outside_of_plain (mem_many_one.mp before_plain), Option.bind_some, scan_append,
      scan_braced content_plain content_ne_nil, Option.bind_some, ih others]

theorem Layout.mem_balanced (l : Layout) : l.text ∈ balanced.language := by
  induction l with
  | plain t t_plain =>
    exact mem_seq.mpr ⟨[], mem_many.mpr ⟨[], rfl, by simp⟩, t, mem_many_one.mpr t_plain, rfl⟩
  | group before content rest before_plain content_plain content_ne_nil ih =>
    obtain ⟨m, groups, last, last_plain, whole⟩ := mem_seq.mp ih
    obtain ⟨ms, rfl, members⟩ := mem_many.mp groups
    have first : before ++ braced content ∈ (Naming.plain.many.seq token).language :=
      mem_seq.mpr ⟨before, mem_many_one.mpr before_plain, braced content,
        mem_token.mpr ⟨content, content_ne_nil, content_plain, rfl⟩, rfl⟩
    refine mem_seq.mpr ⟨((before ++ braced content) :: ms).flatten, ?_, last, last_plain, ?_⟩
    · exact mem_many.mpr ⟨_, rfl, List.forall_mem_cons.mpr ⟨first, members⟩⟩
    · rw [text, ← whole, List.flatten_cons, List.append_assoc, List.append_assoc]

theorem balanced_spans_iff {t : Text} :
    balanced.spans t = true ↔ scan .outside t = some .outside := by
  rw [spans_iff]
  constructor
  · rintro ⟨m, balances, r, rfl, rfl | rfl⟩
    · rw [List.append_nil]
      exact scan_of_mem_balanced balances
    · rw [scan_append, scan_of_mem_balanced balances]
      rfl
  · intro accepted
    obtain ⟨l, rfl⟩ := scan_accepts_iff.mp accepted
    exact ⟨l.text, l.mem_balanced, [], List.append_nil _, .inl rfl⟩

/-! ### Nested groups -/

/-- No scan goes on after a second opening brace. -/
theorem scan_nested (p : Place) {t : Text} (t_plain : IsPlain t) (rest : Text) :
    scan p ('\x7b' :: (t ++ '\x7b' :: rest)) = none := by
  have stops : ∀ q : Place, q ≠ .outside → scan q ('\x7b' :: rest) = none := by
    intro q started
    rw [scan_cons, Place.after?, if_pos rfl, if_neg started]
    rfl
  by_cases place : p = .outside
  · subst place
    have opens : Place.after? .outside '\x7b' = some .opened := rfl
    rw [scan_cons, opens, Option.bind_some, scan_append]
    by_cases empty : t = []
    · subst empty
      exact stops .opened (by decide)
    · rw [scan_plain t_plain empty]
      exact stops .inside (by decide)
  · rw [scan_cons, Place.after?, if_pos rfl, if_neg place]
    rfl

/-- A text with a nested group is not balanced. -/
theorem spans_of_occursIn {t : Text} (nested : nestedGroup.occursIn t = true) :
    balanced.spans t = false := by
  obtain ⟨before, m, member, after, rfl⟩ := occursIn_iff.mp nested
  obtain ⟨o, opens, -, ⟨p, p_plain, -, ⟨o', opens', n, -, rfl⟩, rfl⟩, rfl⟩ := member
  rw [mem_opening.mp opens, mem_opening.mp opens', ← Bool.not_eq_true, balanced_spans_iff]
  intro accepted
  rw [scan_append, Option.bind_eq_some_iff] at accepted
  obtain ⟨place, -, later⟩ := accepted
  simp only [List.cons_append, List.nil_append, List.append_assoc] at later
  rw [scan_nested place (mem_many_one.mp p_plain)] at later
  cases later

theorem hasMatchedBraces_iff {t : Text} :
    hasMatchedBraces t = true ↔ scan .outside t = some .outside := by
  rw [hasMatchedBraces, Bool.and_eq_true, balanced_spans_iff]
  constructor
  · exact And.right
  · intro accepted
    refine ⟨?_, accepted⟩
    rw [Bool.not_eq_true', ← Bool.not_eq_true]
    intro nested
    have rejected := spans_of_occursIn nested
    rw [balanced_spans_iff.mpr accepted] at rejected
    cases rejected

/-! ### What is found -/

theorem start?_plain {c : Char} (c_plain : isPlain c = true) (t : Text) :
    token.start? (c :: t) = none := by
  have other : (c == '\x7b') = false := by
    rw [beq_eq_false_iff_ne]
    rintro rfl
    exact absurd c_plain (by decide)
  have unmatched : run token some (c :: t) = none := by
    simp only [token, opening, run, other, Bool.false_eq_true, if_false]
  rw [start?, unmatched]
  rfl

theorem run_braced {content : Text} (content_ne_nil : content ≠ [])
    (content_plain : IsPlain content) (t : Text) :
    run token some (braced content ++ t) = some t := by
  have member : braced content ∈ token.language :=
    mem_token.mpr ⟨content, content_ne_nil, content_plain, rfl⟩
  have found : (run token some (braced content ++ t)).isSome := isSome_run member rfl
  obtain ⟨rest, answer⟩ := Option.isSome_iff_exists.mp found
  obtain ⟨m, isToken, r, whole, asked⟩ := of_run answer
  obtain ⟨content', -, content'_plain, rfl⟩ := mem_token.mp isToken
  obtain ⟨-, rfl⟩ := braced_append_inj content'_plain content_plain whole
  rw [answer, ← asked]

theorem start?_braced {content : Text} (content_ne_nil : content ≠ [])
    (content_plain : IsPlain content) (t : Text) :
    token.start? (braced content ++ t) = some (braced content, t) := by
  have shorter : t.length < (braced content ++ t).length := by
    rw [braced, List.length_append, List.length_cons]
    omega
  have taken : (braced content ++ t).length - t.length = (braced content).length := by
    rw [List.length_append, Nat.add_sub_cancel]
  rw [start?, run_braced content_ne_nil content_plain, Option.filter_some,
    if_pos (decide_eq_true shorter), Option.map_some, taken, List.take_left]

/-- What a search for tokens makes of a text with this layout. -/
def Layout.parts : Layout → List Part
  | plain t _ => t.map .between
  | group before content rest _ _ _ => before.map .between ++ .found (braced content) :: rest.parts

theorem parts_plain {p : Text} (p_plain : IsPlain p) (t : Text) :
    token.parts (p ++ t) = p.map .between ++ token.parts t := by
  induction p with
  | nil => rfl
  | cons c p ih =>
    obtain ⟨first, others⟩ := List.forall_mem_cons.mp p_plain
    rw [List.cons_append, parts_of_none (start?_plain first _), ih others]
    rfl

theorem parts_text (l : Layout) (t : Text) :
    token.parts (l.text ++ t) = l.parts ++ token.parts t := by
  induction l with
  | plain p p_plain => exact parts_plain p_plain t
  | group before content rest before_plain content_plain content_ne_nil ih =>
    rw [Layout.text, List.append_assoc, List.append_assoc, parts_plain before_plain,
      parts_of_some (start?_braced content_ne_nil content_plain _), ih, Layout.parts,
      List.append_assoc, List.cons_append]

theorem Layout.found_parts (l : Layout) : l.parts.filterMap Part.found? = l.tokens := by
  have plain_found (t : Text) : (t.map Part.between).filterMap Part.found? = [] := by
    simp [Part.found?]
  induction l with
  | plain t t_plain => exact plain_found t
  | group before content rest before_plain content_plain content_ne_nil ih =>
    rw [parts, List.filterMap_append, plain_found, List.nil_append, tokens, ← ih]
    rfl

theorem hasMatchedBraces_text (l : Layout) : hasMatchedBraces l.text = true :=
  hasMatchedBraces_iff.mpr l.scan_text

theorem parts_eq (l : Layout) : token.parts l.text = l.parts := by
  have whole := parts_text l []
  rwa [List.append_nil, parts, List.append_nil] at whole

theorem tokens?_text (l : Layout) : tokens? l.text = some l.tokens := by
  rw [tokens?, if_pos (hasMatchedBraces_text l), findAll, parts_eq, l.found_parts]

theorem isSome_tokens? {t : Text} : (tokens? t).isSome = hasMatchedBraces t := by
  unfold tokens?
  cases hasMatchedBraces t <;> rfl

theorem isNone_tokens? {t : Text} : (tokens? t).isNone = !hasMatchedBraces t := by
  rw [← isSome_tokens?, Option.not_isSome]

theorem exists_layout {t : Text} {tokens : List Text} (read : tokens? t = some tokens) :
    ∃ l : Layout, l.text = t ∧ l.tokens = tokens := by
  have matched := isSome_tokens?.symm.trans (Option.isSome_of_eq_some read)
  obtain ⟨l, rfl⟩ := scan_accepts_iff.mp (hasMatchedBraces_iff.mp matched)
  exact ⟨l, rfl, Option.some.inj ((tokens?_text l).symm.trans read)⟩

/-- A text has tokens if and only if a scan accepts it, and then they are those of its only layout.
That groups are not nested is already said by their balance. -/
theorem tokens_of_only_layout (t : Text) :
    ((tokens? t).isSome = true ↔ scan .outside t = some .outside) ∧
    (∀ ts, tokens? t = some ts ↔
      ∃ l : Layout, l.text = t ∧ l.tokens = ts ∧ ∀ l' : Layout, l'.text = t → l' = l) ∧
    (nestedGroup.occursIn t = true → balanced.spans t = false) := by
  refine ⟨?_, ?_, spans_of_occursIn⟩
  · rw [isSome_tokens?, hasMatchedBraces_iff]
  · intro ts
    constructor
    · intro read
      have accepted := isSome_tokens?.symm.trans (Option.isSome_of_eq_some read)
      obtain ⟨l, rfl⟩ := scan_accepts_iff.mp (hasMatchedBraces_iff.mp accepted)
      exact ⟨l, rfl, Option.some.inj ((tokens?_text l).symm.trans read), fun l' same =>
        Layout.text_injective same⟩
    · rintro ⟨l, rfl, rfl, -⟩
      exact tokens?_text l

theorem nested_group_not_balanced :
    nestedGroup.occursIn "a\x7bb\x7bc\x7dd\x7d" = true ∧
      balanced.spans "a\x7bb\x7bc\x7dd\x7d" = false := by
  have nested : nestedGroup.occursIn "a\x7bb\x7bc\x7dd\x7d" = true := by decide +kernel
  exact ⟨nested, (tokens_of_only_layout _).2.2 nested⟩

end ImageFiling.Naming
