import ImageFiling.Proofs.Time.Pattern

/-!
# Patterns run by run

A date pattern is read from left to right by bracketed texts, runs of one letter and single
characters, and it can be cut where no bracket is open and no run goes on (`format_by_runs`).
-/

namespace ImageFiling

namespace Pattern

/-- The letters that name fields, each with its longest run that names one. -/
def letters : List (Char × Nat) :=
  [('Y', 4), ('M', 4), ('d', 4), ('S', 3), ('D', 2), ('H', 2), ('h', 2), ('m', 2), ('s', 2),
    ('Z', 2), ('a', 1), ('A', 1)]

/-- The runs of these letters, not longer than the longest, that name no field. -/
def nameless : List (Char × Nat) := [('Y', 1), ('Y', 3), ('S', 1), ('S', 2)]

/-- The lengths into which a run of `n` letters is cut: as many of the longest as there are, then
what is left. -/
def cutRun (longest n : Nat) : List Nat :=
  List.replicate (n / longest) longest ++ if n % longest = 0 then [] else [n % longest]

/-- Every opening bracket has a closing one somewhere after it. -/
def IsClosed (pattern : Text) : Prop :=
  ∀ before after, pattern = before ++ '[' :: after → ']' ∈ after

/-! ### Runs cut into lengths -/

theorem cutRun_zero (longest : Nat) : cutRun longest 0 = [] := by
  simp [cutRun]

theorem cutRun_of_lt {longest n : Nat} (positive : 0 < n) (short : n < longest) :
    cutRun longest n = [n] := by
  rw [cutRun, Nat.div_eq_of_lt short, Nat.mod_eq_of_lt short, if_neg (Nat.ne_of_gt positive)]
  rfl

theorem cutRun_add {longest : Nat} (positive : 0 < longest) (n : Nat) :
    cutRun longest (longest + n) = longest :: cutRun longest n := by
  rw [cutRun, Nat.add_div_left n positive, Nat.add_mod_left, List.replicate_succ, List.cons_append,
    cutRun]

/-! ### The first part of a pattern -/

variable {c : Char} {longest n : Nat} {r : Text}

theorem letters_longestRun : ∀ p ∈ letters,
    DateField.longestRun p.1 = p.2 ∧ 0 < p.2 ∧ p.1 ≠ '[' ∧ (p.1 = 'S' → p.2 = 3) := by
  decide

/-- What is no letter is a run of its own that names no field. -/
theorem ofRun_other (other : ∀ k, (c, k) ∉ letters) :
    DateField.longestRun c = 1 ∧ c ≠ 'S' ∧ ofRun c 1 = .text [c] := by
  have apart : ∀ p ∈ letters, c ≠ p.1 := by
    rintro p member rfl
    exact other p.2 member
  simp only [letters, List.forall_mem_cons] at apart
  have unnamed : DateField.ofRun? c 1 = none := by
    unfold DateField.ofRun?
    split <;> simp_all
  refine ⟨?_, ?_, ?_⟩
  · simp [DateField.longestRun, apart]
  · simp [apart]
  · rw [ofRun, unnamed]
    rfl

theorem ofRun?_letter : ∀ p ∈ letters, ∀ n ≤ p.2, 0 < n →
    ((p.1, n) ∈ nameless ↔ DateField.ofRun? p.1 n = none) := by
  decide

theorem ofRun_letter (letter : (c, longest) ∈ letters) (short : n ≤ longest) (positive : 0 < n) :
    ((c, n) ∈ nameless → ofRun c n = .text (List.replicate n c)) ∧
      ((c, n) ∉ nameless → ∃ f, ofRun c n = .field f) := by
  rw [ofRun?_letter _ letter n short positive, ofRun]
  cases DateField.ofRun? c n with
  | none => exact ⟨fun _ => rfl, fun named => absurd rfl named⟩
  | some f => exact ⟨nofun, fun _ => ⟨f, rfl⟩⟩

theorem first_bracketed {t : Text} (filled : t ≠ []) (clean : ']' ∉ t) (r : Text) :
    first '[' (t ++ ']' :: r) = (.text t, r) := by
  have inner : bracketed? (t ++ ']' :: r) = some (t, r) := by
    simp [bracketed?, clean, filled]
  rw [first, if_pos rfl, inner]

theorem bracketed?_eq_none (empty : ']' ∉ r ∨ r.head? = some ']') : bracketed? r = none := by
  rcases empty with unclosed | closed
  · simp [bracketed?, unclosed]
  · cases r with
    | nil => rfl
    | cons d r =>
      obtain rfl : d = ']' := by simpa using closed
      simp [bracketed?]

theorem first_of_run (plain : c = '[' → bracketed? r = none) :
    first c r = (ofRun c (runLength c r), r.drop (runLength c r - 1)) := by
  have none : (if c = '[' then bracketed? r else none) = none := by
    split
    · next bracket => exact plain bracket
    · rfl
  rw [first, none]

theorem first_other (other : ∀ k, (c, k) ∉ letters)
    (plain : c = '[' → ']' ∉ r ∨ r.head? = some ']') : first c r = (.text [c], r) := by
  obtain ⟨single, noThrees, unnamed⟩ := ofRun_other other
  have length : runLength c r = 1 := by
    have starts : (c :: r).takeWhile (· == c) = c :: r.takeWhile (· == c) :=
      List.takeWhile_cons_of_pos (beq_self_eq_true c)
    rw [runLength, if_neg fun threes => noThrees threes.1, single, starts, List.length_cons]
    omega
  rw [first_of_run fun bracket => bracketed?_eq_none (plain bracket), length, unnamed]
  rfl

theorem takeWhile_eq_nil (ends : r.head? ≠ some c) : r.takeWhile (· == c) = [] := by
  cases r with
  | nil => rfl
  | cons d r => exact List.takeWhile_cons_of_neg (by simpa using ends)

theorem length_takeWhile_run (ends : r.head? ≠ some c) (n : Nat) :
    ((List.replicate n c ++ r).takeWhile (· == c)).length = n := by
  rw [List.takeWhile_append_of_pos (by simp), takeWhile_eq_nil ends, List.append_nil,
    List.length_replicate]

theorem runLength_of_letter (letter : (c, longest) ∈ letters) (ends : r.head? ≠ some c) (n : Nat) :
    runLength c (List.replicate n c ++ r) =
      if c = 'S' ∧ n + 1 < 3 then 1 else min longest (n + 1) := by
  obtain ⟨most, -, -, threes⟩ := letters_longestRun _ letter
  have run := length_takeWhile_run ends (n + 1)
  rw [runLength, ← List.cons_append, ← List.replicate_succ, run, most]
  by_cases three : c = 'S'
  · have full := threes three
    simp only [three, true_and]
    grind
  · simp only [three, false_and, if_false]

theorem first_of_letter (letter : (c, longest) ∈ letters) {k n : Nat}
    (length : runLength c (List.replicate (k + n) c ++ r) = k + 1) :
    first c (List.replicate (k + n) c ++ r) = (ofRun c (k + 1), List.replicate n c ++ r) := by
  obtain ⟨-, -, noBracket, -⟩ := letters_longestRun _ letter
  rw [first_of_run fun bracket => absurd bracket noBracket, length, Nat.add_sub_cancel,
    List.replicate_add, List.append_assoc, List.drop_left' List.length_replicate]

/-! ### Patterns put together -/

theorem IsClosed.of_suffix {t f : Text} (closed : IsClosed f) (ends : t <:+ f) : IsClosed t := by
  obtain ⟨front, rfl⟩ := ends
  rintro before after rfl
  exact closed (front ++ before) after (List.append_assoc front before _).symm

section

variable {f g : Text}

/-- No run goes on from the first pattern into the second. -/
def Apart (f g : Text) : Prop := ∀ d, f.getLast? = some d → g.head? ≠ some d

theorem Apart.of_suffix {t : Text} (apart : Apart f g) (ends : t <:+ f) : Apart t g := by
  obtain ⟨front, rfl⟩ := ends
  intro d last
  apply apart d
  rw [List.getLast?_append, last]
  rfl

theorem Apart.takeWhile_append (apart : Apart (c :: r) g) :
    (c :: (r ++ g)).takeWhile (· == c) = (c :: r).takeWhile (· == c) := by
  rw [← List.cons_append, List.takeWhile_append]
  split
  · next long =>
    have whole := (List.takeWhile_prefix (· == c) (l := c :: r)).eq_of_length long
    have same := List.takeWhile_eq_self_iff.mp whole _ (List.getLast_mem (List.cons_ne_nil c r))
    have ends := apart _ (List.getLast?_eq_some_getLast (List.cons_ne_nil c r))
    rw [beq_iff_eq.mp same] at ends
    rw [takeWhile_eq_nil ends, List.append_nil, whole]
  · rfl

theorem runLength_le (c : Char) (r : Text) : runLength c r ≤ r.length + 1 := by
  have part := (List.takeWhile_sublist (· == c) (l := c :: r)).length_le
  rw [List.length_cons] at part
  unfold runLength
  dsimp only
  split <;> omega

/-- What follows a pattern whose brackets are closed and whose runs have ended does not change its
first part. -/
theorem first_append (closed : IsClosed (c :: r)) (apart : Apart (c :: r) g) :
    first c (r ++ g) = ((first c r).1, (first c r).2 ++ g) := by
  by_cases bracket : c = '['
  · subst bracket
    obtain ⟨t, rest, rfl, clean⟩ := List.eq_append_cons_of_mem (closed [] r rfl)
    rw [List.append_assoc, List.cons_append]
    by_cases empty : t = []
    · subst empty
      have other : ∀ k, ('[', k) ∉ letters := by simp [letters]
      rw [first_other other fun _ => .inr rfl, first_other other fun _ => .inr rfl]
      rfl
    · rw [first_bracketed empty clean, first_bracketed empty clean]
  · have length : runLength c (r ++ g) = runLength c r := by
      rw [runLength, apart.takeWhile_append, runLength]
    have within := runLength_le c r
    rw [first_of_run fun here => absurd here bracket, first_of_run fun here => absurd here bracket,
      length, List.drop_append_of_le_length (by omega)]

theorem parse_append (closed : IsClosed f) (apart : Apart f g) : parse (f ++ g) = parse f ++ parse g := by
  induction f using parse.induct with
  | case1 => rw [List.nil_append, parse, List.nil_append]
  | case2 c r ih =>
    have ends := (suffix_of_first c r).trans (List.suffix_cons c r)
    rw [List.cons_append, parse, first_append closed apart,
      ih (closed.of_suffix ends) (apart.of_suffix ends), parse, List.cons_append]

end

theorem renderParts_append (m : Moment) (ps qs : List PatternPart) :
    renderParts m (ps ++ qs) = do
      let t ← renderParts m ps
      let u ← renderParts m qs
      return t ++ u := by
  induction ps with
  | nil =>
    rw [List.nil_append, renderParts]
    cases renderParts m qs <;> rfl
  | cons p ps ih =>
    rw [List.cons_append, renderParts, renderParts, ih]
    cases renderPart m p with
    | error e => rfl
    | ok t =>
      cases renderParts m ps with
      | error e => rfl
      | ok u =>
        cases renderParts m qs with
        | error e => rfl
        | ok v => exact congrArg Except.ok (List.append_assoc t u v).symm

end Pattern

/-! ### Patterns rendered part by part -/

namespace Moment

open Pattern

variable {m : Moment} {c : Char} {longest n : Nat} {r : Text}

theorem format_cons (m : Moment) (c : Char) (r : Text) : m.format (c :: r) = do
    let t ← renderPart m (first c r).1
    let u ← m.format (first c r).2
    return t ++ u := by
  rw [format, parse]
  rfl

theorem format_text {t rest : Text} (read : first c r = (.text t, rest)) :
    m.format (c :: r) = (m.format rest).map (t ++ ·) := by
  rw [format_cons, read]
  rfl

/-- A run of a letter that is long enough starts with its longest part. -/
theorem format_run_add (letter : (c, longest) ∈ letters) (ends : r.head? ≠ some c) (n : Nat) :
    m.format (List.replicate (longest + n) c ++ r) = do
      let t ← renderPart m (ofRun c longest)
      let u ← m.format (List.replicate n c ++ r)
      return t ++ u := by
  obtain ⟨-, positive, -, threes⟩ := letters_longestRun _ letter
  obtain ⟨k, rfl⟩ : ∃ k, longest = k + 1 := ⟨longest - 1, by omega⟩
  have length : runLength c (List.replicate (k + n) c ++ r) = k + 1 := by
    rw [runLength_of_letter letter ends, if_neg, Nat.min_eq_left (by omega)]
    rintro ⟨three, short⟩
    have full := threes three
    omega
  rw [Nat.add_right_comm, List.replicate_succ, List.cons_append, format_cons,
    first_of_letter letter length]

/-- A letter that names a field in threes only is read alone before the last two. -/
theorem format_threes (ends : r.head? ≠ some 'S') (short : n < 3) :
    m.format (List.replicate n 'S' ++ r) = (m.format r).map (List.replicate n 'S' ++ ·) := by
  have letter : ('S', 3) ∈ letters := by decide
  induction n with
  | zero => exact (congrFun Except.map_id (m.format r)).symm
  | succ n ih =>
    have length : runLength 'S' (List.replicate (0 + n) 'S' ++ r) = 0 + 1 := by
      rw [runLength_of_letter letter ends, if_pos ⟨rfl, by omega⟩]
    have read := first_of_letter letter length
    rw [Nat.zero_add] at read
    rw [List.replicate_succ, List.cons_append, format_text read, ih (by omega)]
    cases m.format r <;> rfl

theorem format_run_of_lt (letter : (c, longest) ∈ letters) (ends : r.head? ≠ some c)
    (positive : 0 < n) (short : n < longest) : m.format (List.replicate n c ++ r) = do
      let t ← renderPart m (ofRun c n)
      let u ← m.format r
      return t ++ u := by
  by_cases three : c = 'S'
  · subst three
    obtain rfl : longest = 3 := (letters_longestRun _ letter).2.2.2 rfl
    rw [format_threes ends short]
    obtain rfl | rfl : n = 1 ∨ n = 2 := by omega
    · rfl
    · rfl
  · obtain ⟨k, rfl⟩ : ∃ k, n = k + 1 := ⟨n - 1, by omega⟩
    have length : runLength c (List.replicate (k + 0) c ++ r) = k + 1 := by
      rw [runLength_of_letter letter ends, if_neg fun threes => three threes.1]
      exact Nat.min_eq_right (Nat.le_of_lt short)
    rw [List.replicate_succ, List.cons_append, format_cons, ← Nat.add_zero k,
      first_of_letter letter length]
    rfl

/-- A run of a letter is rendered as it is cut into lengths. -/
theorem format_run (letter : (c, longest) ∈ letters) (ends : r.head? ≠ some c) (n : Nat) :
    m.format (List.replicate n c ++ r) =
      renderParts m ((cutRun longest n).map (ofRun c) ++ parse r) := by
  have positive := (letters_longestRun _ letter).2.1
  induction n using Nat.strong_induction_on with
  | h n ih =>
    rcases Nat.lt_or_ge n longest with short | long
    · rcases Nat.eq_zero_or_pos n with rfl | some
      · rw [cutRun_zero]
        rfl
      · rw [format_run_of_lt letter ends some short, cutRun_of_lt some short]
        rfl
    · obtain ⟨k, rfl⟩ := Nat.exists_eq_add_of_le long
      rw [format_run_add letter ends, ih k (by omega), cutRun_add positive]
      rfl

/-- How a moment is rendered by a pattern. Text in brackets stands for itself. A run of a letter is
cut into its longest parts and the rest, and a part that names no field stays as it is. Every other
character stands for itself, as does a bracket that is not closed or closed at once. A pattern may be
cut behind closed brackets where no run goes on. It is rendered whenever the offset can be told. -/
theorem format_by_runs (m : Moment) :
    (∀ t r : Text, t ≠ [] → ']' ∉ t →
      m.format ('[' :: t ++ ']' :: r) = (m.format r).map (t ++ ·)) ∧
    (∀ c longest, (c, longest) ∈ letters →
      (∀ n r, r.head? ≠ some c → m.format (List.replicate n c ++ r) = do
        let t ← renderParts m ((cutRun longest n).map (ofRun c))
        let u ← m.format r
        return t ++ u) ∧
      ∀ n ≤ longest, 0 < n →
        ((c, n) ∈ nameless → ofRun c n = .text (List.replicate n c)) ∧
        ((c, n) ∉ nameless → ∃ f, ofRun c n = .field f)) ∧
    (∀ c r, (∀ longest, (c, longest) ∉ letters) → (c = '[' → ']' ∉ r ∨ r.head? = some ']') →
      m.format (c :: r) = (m.format r).map (c :: ·)) ∧
    (∀ f g, IsClosed f → Apart f g → m.format (f ++ g) = do
      let t ← m.format f
      let u ← m.format g
      return t ++ u) ∧
    ∀ o, m.utcOffset = .ok o → ∀ f, ∃ t, m.format f = .ok t := by
  refine ⟨?_, ?_, ?_, ?_, fun o told => format_ok told⟩
  · intro t r filled clean
    exact format_text (first_bracketed filled clean r)
  · intro c longest letter
    refine ⟨?_, fun n short positive => ofRun_letter letter short positive⟩
    intro n r ends
    rw [format_run letter ends, renderParts_append]
    rfl
  · intro c r other plain
    exact format_text (first_other other plain)
  · intro f g closed apart
    rw [format, parse_append closed apart, renderParts_append]
    rfl

def dusk : Moment := ⟨⟨2024, 2, 29⟩, 18, 5, 9, 42000, .ok 3600⟩

theorem dusk_by_runs :
    dusk.format "[Year] YYYYYSSSS[" = .ok "Year 2024Y042S[" := by
  obtain ⟨bracketed, runs, others, cut, -⟩ := format_by_runs dusk
  have closed : IsClosed "YYYYY" := by
    intro before after same
    have bracket : '[' ∈ ("YYYYY" : Text) := by simp [same]
    exact absurd bracket (by decide)
  have apart : Apart "YYYYY" "SSSS[" := by
    rintro d ⟨⟩
    decide
  have empty : dusk.format [] = .ok [] := by decide +kernel
  have year : renderParts dusk ((cutRun 4 5).map (ofRun 'Y')) = .ok "2024Y" := by decide +kernel
  have thousandth : renderParts dusk ((cutRun 3 4).map (ofRun 'S')) = .ok "042S" := by
    decide +kernel
  have years : dusk.format "YYYYY" = .ok "2024Y" := by
    have run := (runs 'Y' 4 (by decide)).1 5 [] (by decide)
    rw [year, empty] at run
    exact run
  have ends : dusk.format "[" = .ok "[" := by
    have alone := others '[' [] (by simp [letters]) (by decide)
    rw [empty] at alone
    exact alone
  have thousandths : dusk.format "SSSS[" = .ok "042S[" := by
    have run := (runs 'S' 3 (by decide)).1 4 "[" (by decide)
    rw [thousandth, ends] at run
    exact run
  have whole : dusk.format "YYYYYSSSS[" = .ok "2024Y042S[" := by
    have both := cut "YYYYY" "SSSS[" closed apart
    rw [years, thousandths] at both
    exact both
  have spaced : dusk.format " YYYYYSSSS[" = .ok " 2024Y042S[" := by
    have single := others ' ' "YYYYYSSSS[" (by simp [letters]) (by decide)
    rw [whole] at single
    exact single
  have named := bracketed "Year" " YYYYYSSSS[" (by decide) (by decide)
  rw [spaced] at named
  exact named

end Moment

end ImageFiling
