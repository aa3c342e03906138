import ImageFiling.Proofs.Text.Case
import Mathlib.Data.List.Infix

/-!
# Parts in any letter case

A text is searched for a part in its lower case. If the part is of ASCII characters that no other
character is mapped to, it is found exactly where the text has it in some case of its letters
(`includes_lower_iff`).
-/

namespace ImageFiling.Text

theorem includes_iff {part t : Text} : includes part t = true ↔ part <:+: t := by
  induction t with
  | nil => simp [includes]
  | cons c r ih => simp [includes, ih, List.infix_cons_iff]

theorem toLower_of_le {c : Char} (outside : 128 ≤ c.toNat) : c.toLower = c := by
  have other : ¬ (c.val ≥ 'A'.val ∧ c.val ≤ 'Z'.val) := by
    rintro ⟨-, most⟩
    have bound : c.toNat ≤ 90 := most
    omega
  exact dif_neg other

/-- An ASCII character in lower case that no character outside ASCII is mapped to. -/
def Settled (x : Char) : Prop := x.toNat < 128 ∧ ∀ c, x ∈ lowerChar c → c.toNat < 128

/-- Of the ASCII letters, only `k` is the target of a run. -/
theorem lowerRuns_ascii : ∀ run ∈ lowerRuns, 128 ≤ run.target ∨
    run.first = run.last ∧ run.target = 'k'.toNat := by
  decide +kernel

theorem applyRuns_lowerRuns {n m : Nat} (mapped : applyRuns lowerRuns n = some m) :
    128 ≤ m ∨ m = 'k'.toNat := by
  obtain ⟨run, member, image⟩ := List.exists_of_findSome?_eq_some mapped
  have target := lowerRuns_ascii run member
  unfold CaseRun.image? at image
  split at image
  · have shifted := Option.some.inj image
    omega
  · cases image

/-- Besides the Kelvin sign, only the dotted capital I is mapped to an ASCII letter. -/
theorem settled_of_ne {x : Char} (ascii : x.toNat < 128) (positive : 0 < x.toNat) (i : x ≠ 'i')
    (k : x ≠ 'k') : Settled x := by
  refine ⟨ascii, ?_⟩
  intro c member
  by_contra outside
  rw [lowerChar, if_neg outside] at member
  split at member
  · rcases List.mem_cons.mp member with same | dot
    · exact i same
    · rw [List.mem_singleton.mp dot] at ascii
      exact absurd ascii (by decide)
  · have mapped := List.mem_singleton.mp member
    cases image : applyRuns lowerRuns c.toNat with
    | none =>
      rw [image, Option.getD_none, Char.ofNat_toNat] at mapped
      exact outside (mapped ▸ ascii)
    | some m =>
      rw [image, Option.getD_some] at mapped
      have value := toNat_ofNat m
      rw [← mapped] at value
      rcases applyRuns_lowerRuns image with high | letter
      · omega
      · have same : x.toNat = 'k'.toNat := by omega
        exact k (Char.toNat_inj.mp same)

/-! ### One character and the rest -/

/-- What stands for a character in the lower case of a text. -/
def lowerAt (before : Text) (c : Char) (r : Text) : Text :=
  if c = 'Σ' then [if endsWord before r then 'ς' else 'σ'] else lowerChar c

theorem lowerAt_of_toLower {x c : Char} (settled : Settled x) (same : c.toLower = x)
    (before r : Text) : lowerAt before c r = [x] := by
  have ascii : c.toNat < 128 := by
    by_contra outside
    have stays := toLower_of_le (Nat.le_of_not_lt outside)
    rw [← same, stays] at settled
    exact outside settled.1
  have other : c ≠ 'Σ' := by
    rintro rfl
    exact absurd ascii (by decide)
  rw [lowerAt, if_neg other, lowerChar, if_pos ascii, same]

theorem toLower_of_mem_lowerAt {x c : Char} (settled : Settled x) {before r : Text}
    (member : x ∈ lowerAt before c r) : c.toLower = x := by
  unfold lowerAt at member
  split at member
  · have ascii := settled.1
    rw [List.mem_singleton.mp member] at ascii
    split at ascii <;> exact absurd ascii (by decide)
  · have ascii := settled.2 c member
    rw [lowerChar, if_pos ascii] at member
    exact (List.mem_singleton.mp member).symm

theorem lowerAt_ne_nil (before : Text) (c : Char) (r : Text) : lowerAt before c r ≠ [] := by
  unfold lowerAt lowerChar
  split
  · simp
  · split
    · simp
    · split <;> simp

/-! ### Parts -/

theorem infix_append_of_not_mem {x : Char} {part chunk rest : Text} (absent : x ∉ chunk)
    (found : x :: part <:+: chunk ++ rest) : x :: part <:+: rest := by
  induction chunk with
  | nil => exact found
  | cons d chunk ih =>
    rcases List.infix_cons_iff.mp found with starts | later
    · exact (List.ne_of_not_mem_cons absent (List.cons_prefix_cons.mp starts).1).elim
    · exact ih (List.not_mem_of_not_mem_cons absent) later

variable {part : Text} (settled : ∀ x ∈ part, Settled x)

include settled

theorem prefix_lowerAfter_iff {before t : Text} :
    part <+: lowerAfter before t ↔ ∃ w v, t = w ++ v ∧ w.map Char.toLower = part := by
  induction part generalizing before t with
  | nil => simp
  | cons x part ih =>
    obtain ⟨first, later⟩ := List.forall_mem_cons.mp settled
    cases t with
    | nil => simp [lowerAfter]
    | cons c r =>
      have whole : lowerAfter before (c :: r) = lowerAt before c r ++ lowerAfter (c :: before) r := rfl
      rw [whole]
      constructor
      · intro starts
        -- A character that is mapped to several ones does not begin with a settled one.
        have head : x ∈ lowerAt before c r := by
          obtain ⟨d, chunk, chunk_eq⟩ := List.exists_cons_of_ne_nil (lowerAt_ne_nil before c r)
          rw [chunk_eq, List.cons_append, List.cons_prefix_cons] at starts
          rw [chunk_eq, starts.1]
          exact List.mem_cons_self
        have same := toLower_of_mem_lowerAt first head
        rw [lowerAt_of_toLower first same, List.singleton_append, List.cons_prefix_cons] at starts
        obtain ⟨w, v, rfl, lowered⟩ := (ih later).mp starts.2
        exact ⟨c :: w, v, rfl, by rw [List.map_cons, same, lowered]⟩
      · rintro ⟨w, v, split_, lowered⟩
        cases w with
        | nil => cases lowered
        | cons d w =>
          obtain ⟨rfl, rfl⟩ := List.cons.inj split_
          obtain ⟨same, lowered⟩ := List.cons.inj lowered
          rw [lowerAt_of_toLower first same, List.singleton_append, List.cons_prefix_cons]
          exact ⟨rfl, (ih later).mpr ⟨w, v, rfl, lowered⟩⟩

/-- A part begins with a character, or it is in what stands for the rest. -/
theorem infix_lowerAfter_cons_iff (full : part ≠ []) {before : Text} {c : Char} {r : Text} :
    part <:+: lowerAfter before (c :: r) ↔
      part <+: lowerAfter before (c :: r) ∨ part <:+: lowerAfter (c :: before) r := by
  obtain ⟨x, part, rfl⟩ := List.exists_cons_of_ne_nil full
  have whole : lowerAfter before (c :: r) = lowerAt before c r ++ lowerAfter (c :: before) r := rfl
  constructor
  · intro found
    by_cases here : x ∈ lowerAt before c r
    · have first := settled x List.mem_cons_self
      have same := toLower_of_mem_lowerAt first here
      rw [whole, lowerAt_of_toLower first same] at found ⊢
      exact List.infix_cons_iff.mp found
    · rw [whole] at found
      exact .inr (infix_append_of_not_mem here found)
  · rintro (starts | later)
    · exact starts.isInfix
    · rw [whole]
      exact later.trans (List.suffix_append _ _).isInfix

theorem infix_lowerAfter_iff (full : part ≠ []) {before t : Text} :
    part <:+: lowerAfter before t ↔ ∃ u w v, t = u ++ w ++ v ∧ w.map Char.toLower = part := by
  induction t generalizing before with
  | nil =>
    constructor
    · intro found
      exact (full (List.infix_nil.mp found)).elim
    · rintro ⟨u, w, v, split_, lowered⟩
      obtain ⟨-, rfl, -⟩ : u = [] ∧ w = [] ∧ v = [] := by simpa using split_.symm
      exact (full lowered.symm).elim
  | cons c r ih =>
    rw [infix_lowerAfter_cons_iff settled full, prefix_lowerAfter_iff settled, ih]
    constructor
    · rintro (⟨w, v, split_, lowered⟩ | ⟨u, w, v, rfl, lowered⟩)
      · exact ⟨[], w, v, split_, lowered⟩
      · exact ⟨c :: u, w, v, rfl, lowered⟩
    · rintro ⟨u, w, v, split_, lowered⟩
      cases u with
      | nil => exact .inl ⟨w, v, split_, lowered⟩
      | cons d u =>
        obtain ⟨rfl, rfl⟩ := List.cons.inj split_
        exact .inr ⟨u, w, v, rfl, lowered⟩

theorem includes_lower_iff (full : part ≠ []) {t : Text} :
    includes part (lower t) = true ↔ ∃ u w v, t = u ++ w ++ v ∧ w.map Char.toLower = part := by
  rw [includes_iff]
  exact infix_lowerAfter_iff settled full

end ImageFiling.Text
