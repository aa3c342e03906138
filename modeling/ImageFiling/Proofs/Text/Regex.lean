import ImageFiling.Text.Regex
import Mathlib.Algebra.BigOperators.Group.List.Basic
import Mathlib.Computability.Language

/-!
# The language of a regular expression

`language` says which texts an expression matches. Trying the ways of a match one after the other
finds an answer if and only if some match has one.
-/

namespace ImageFiling.Regex

open scoped Computability

/-- The texts that an expression matches. -/
def language : Regex → Language Char
  | one p => {t | ∃ c, p c = true ∧ t = [c]}
  | seq e f => language e * language f
  | many e => (language e)∗

theorem mem_seq {e f : Regex} {t : Text} :
    t ∈ (e.seq f).language ↔ ∃ m ∈ e.language, ∃ n ∈ f.language, m ++ n = t :=
  Language.mem_mul

theorem mem_many {e : Regex} {t : Text} :
    t ∈ e.many.language ↔ ∃ ms : List Text, t = ms.flatten ∧ ∀ m ∈ ms, m ∈ e.language :=
  Language.mem_kstar

theorem mem_one_beq {c : Char} {t : Text} : t ∈ (one (· == c)).language ↔ t = [c] := by
  constructor
  · rintro ⟨d, same, rfl⟩
    rw [eq_of_beq same]
  · rintro rfl
    exact ⟨c, beq_self_eq_true c, rfl⟩

theorem mem_many_one {p : Char → Bool} {t : Text} :
    t ∈ (one p).many.language ↔ ∀ c ∈ t, p c = true := by
  rw [mem_many]
  constructor
  · rintro ⟨ms, rfl, members⟩ c member
    obtain ⟨m, inside, here⟩ := List.mem_flatten.mp member
    obtain ⟨d, holds, rfl⟩ := members m inside
    rw [List.mem_singleton.mp here]
    exact holds
  · intro holds
    refine ⟨t.map fun c => [c], ?_, ?_⟩
    · rw [← List.flatMap_def, List.flatMap_singleton']
    · intro m inside
      obtain ⟨c, member, rfl⟩ := List.mem_map.mp inside
      exact ⟨c, holds c member, rfl⟩

theorem mem_atLeastOne_one {p : Char → Bool} {t : Text} :
    t ∈ (one p).atLeastOne.language ↔ t ≠ [] ∧ ∀ c ∈ t, p c = true := by
  rw [atLeastOne, mem_seq]
  constructor
  · rintro ⟨m, ⟨c, holds, rfl⟩, n, more, rfl⟩
    exact ⟨List.cons_ne_nil c n, List.forall_mem_cons.mpr ⟨holds, mem_many_one.mp more⟩⟩
  · rintro ⟨some, holds⟩
    obtain ⟨c, r, rfl⟩ := List.exists_cons_of_ne_nil some
    obtain ⟨first, others⟩ := List.forall_mem_cons.mp holds
    exact ⟨[c], ⟨c, first, rfl⟩, r, mem_many_one.mpr others, rfl⟩

theorem of_rounds {α : Type} {e : Regex} {ask : Text → Option α} {n : Nat} {t : Text} {a : α}
    (one : ∀ {ask : Text → Option α} {t}, run e ask t = some a →
      ∃ m ∈ e.language, ∃ r, m ++ r = t ∧ ask r = some a)
    (answer : rounds (run e) ask n t = some a) :
    ∃ ms : List Text, (∀ m ∈ ms, m ∈ e.language) ∧ ∃ r, ms.flatten ++ r = t ∧ ask r = some a := by
  induction n generalizing t with
  | zero => exact ⟨[], by simp, t, rfl, answer⟩
  | succ n ih =>
    rw [rounds, Option.orElse_eq_orElse, Option.orElse_eq_or, Option.or_eq_some_iff] at answer
    rcases answer with more | ⟨-, last⟩
    · obtain ⟨m, member, rest, rfl, further⟩ := one more
      obtain ⟨ms, members, r, rfl, asked⟩ := ih further
      refine ⟨m :: ms, List.forall_mem_cons.mpr ⟨member, members⟩, r, ?_, asked⟩
      rw [List.flatten_cons, List.append_assoc]
    · exact ⟨[], by simp, t, rfl, last⟩

/-- An answer is one to what is left after a match. -/
theorem of_run {α : Type} {e : Regex} {ask : Text → Option α} {t : Text} {a : α}
    (answer : run e ask t = some a) : ∃ m ∈ e.language, ∃ r, m ++ r = t ∧ ask r = some a := by
  induction e generalizing ask t with
  | one p =>
    cases t with
    | nil => cases answer
    | cons c r =>
      unfold run at answer
      split at answer
      · next inside => exact ⟨[c], ⟨c, inside, rfl⟩, r, rfl, answer⟩
      · cases answer
  | seq e f ihe ihf =>
    obtain ⟨m, first, rest, rfl, later⟩ := ihe answer
    obtain ⟨n, second, r, rfl, asked⟩ := ihf later
    exact ⟨m ++ n, Language.append_mem_mul first second, r, List.append_assoc m n r, asked⟩
  | many e ih =>
    obtain ⟨ms, members, r, whole, asked⟩ := of_rounds ih answer
    exact ⟨ms.flatten, Language.join_mem_kstar members, r, whole, asked⟩

theorem isSome_rounds {α : Type} {e : Regex} {ask : Text → Option α} {ms : List Text} {r : Text}
    (one : ∀ {ask : Text → Option α} {m r}, m ∈ e.language → (ask r).isSome →
      (run e ask (m ++ r)).isSome)
    (members : ∀ m ∈ ms, m ∈ e.language) (asked : (ask r).isSome) {n : Nat}
    (enough : ms.length ≤ n) : (rounds (run e) ask n (ms.flatten ++ r)).isSome := by
  induction ms generalizing n with
  | nil =>
    cases n with
    | zero => exact asked
    | succ n => simp [rounds, asked]
  | cons m ms ih =>
    cases n with
    | zero => exact absurd enough (by simp)
    | succ n =>
      obtain ⟨first, others⟩ := List.forall_mem_cons.mp members
      have more := one first (ih others (Nat.le_of_succ_le_succ enough))
      rw [rounds, List.flatten_cons, List.append_assoc]
      simp [more]

/-- What is left after a match has been asked. -/
theorem isSome_run {α : Type} {e : Regex} {ask : Text → Option α} {m r : Text}
    (member : m ∈ e.language) (asked : (ask r).isSome) : (run e ask (m ++ r)).isSome := by
  induction e generalizing ask m r with
  | one p =>
    obtain ⟨c, inside, rfl⟩ := member
    simp [run, inside, asked]
  | seq e f ihe ihf =>
    obtain ⟨m, first, n, second, rfl⟩ := Language.mem_mul.mp member
    rw [List.append_assoc]
    exact ihe first (ihf second asked)
  | many e ih =>
    obtain ⟨ms, rfl, members⟩ := Language.mem_kstar_iff_exists_nonempty.mp member
    have few : ms.length ≤ ms.flatten.length := calc
      ms.length = (ms.map List.length).length := (List.length_map _).symm
      _ ≤ (ms.map List.length).sum := by
        apply List.length_le_sum_of_one_le
        intro n inside
        obtain ⟨m, member, rfl⟩ := List.mem_map.mp inside
        exact List.length_pos_of_ne_nil (members m member).2
      _ = ms.flatten.length := List.length_flatten.symm
    apply isSome_rounds ih (fun m inside => (members m inside).1) asked
    rw [List.length_append]
    omega

theorem run_some_isSome_iff {e : Regex} {t : Text} :
    (run e some t).isSome ↔ ∃ m ∈ e.language, ∃ r, m ++ r = t := by
  constructor
  · intro found
    obtain ⟨rest, answer⟩ := Option.isSome_iff_exists.mp found
    obtain ⟨m, member, r, whole, -⟩ := of_run answer
    exact ⟨m, member, r, whole⟩
  · rintro ⟨m, member, r, rfl⟩
    exact isSome_run member rfl

theorem occursIn_iff {e : Regex} {t : Text} :
    e.occursIn t = true ↔ ∃ before, ∃ m ∈ e.language, ∃ r, before ++ (m ++ r) = t := by
  induction t with
  | nil =>
    rw [occursIn, run_some_isSome_iff]
    constructor
    · rintro ⟨m, member, r, whole⟩
      exact ⟨[], m, member, r, whole⟩
    · rintro ⟨before, m, member, r, whole⟩
      exact ⟨m, member, r, (List.append_eq_nil_iff.mp whole).2⟩
  | cons c t ih =>
    rw [occursIn, Bool.or_eq_true, ih, run_some_isSome_iff]
    constructor
    · rintro (⟨m, member, r, whole⟩ | ⟨before, m, member, r, whole⟩)
      · exact ⟨[], m, member, r, whole⟩
      · exact ⟨c :: before, m, member, r, congrArg (c :: ·) whole⟩
    · rintro ⟨before, m, member, r, whole⟩
      cases before with
      | nil => exact .inl ⟨m, member, r, whole⟩
      | cons d before => exact .inr ⟨before, m, member, r, (List.cons.inj whole).2⟩

theorem spans_iff {e : Regex} {t : Text} :
    e.spans t = true ↔ ∃ m ∈ e.language, ∃ r, m ++ r = t ∧ (r = [] ∨ r = ['\n']) := by
  have ends : ∀ r : Text, isLineEnd r = true ↔ r = [] ∨ r = ['\n'] := by
    intro r
    rw [isLineEnd, Bool.or_eq_true, List.isEmpty_iff, beq_iff_eq]
  constructor
  · intro found
    obtain ⟨u, answer⟩ := Option.isSome_iff_exists.mp found
    obtain ⟨m, member, r, whole, asked⟩ := of_run answer
    split at asked
    · next last => exact ⟨m, member, r, whole, (ends r).mp last⟩
    · cases asked
  · rintro ⟨m, member, r, rfl, last⟩
    apply isSome_run member
    rw [if_pos ((ends r).mpr last)]
    rfl

/-! ### Searching -/

theorem parts_of_some {e : Regex} {t found rest : Text} (h : e.start? t = some (found, rest)) :
    e.parts t = .found found :: e.parts rest := by
  cases t with
  | nil => exact absurd (length_of_start? h) (Nat.not_lt_zero _)
  | cons c r =>
    rw [parts]
    split
    · next found' rest' h' =>
      cases h.symm.trans h'
      rfl
    · next h' => cases h.symm.trans h'

theorem parts_of_none {e : Regex} {c : Char} {r : Text} (h : e.start? (c :: r) = none) :
    e.parts (c :: r) = .between c :: e.parts r := by
  rw [parts]
  split
  · next h' => cases h.symm.trans h'
  · rfl

end ImageFiling.Regex
