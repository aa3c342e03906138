import ImageFiling.Proofs.Text.Digits
import ImageFiling.Proofs.Text.Order
import Mathlib.Tactic.Ring

/-!
# Numerals in order

Digits are read place by place (`value_append`), and a padded numeral is read as the number that was
written (`value_padded`). Digits of one length are in the order of the numbers that they write
(`le_iff_value_le`).
-/

namespace ImageFiling.Text

variable {t u : Text}

theorem value_append (t u : Text) : value (t ++ u) = value t * 10 ^ u.length + value u := by
  induction u using List.reverseRecOn with
  | nil => simp [value, ofDigits]
  | append_singleton u c ih =>
    rw [← List.append_assoc, value_concat, value_concat, ih, List.length_append, List.length_singleton,
      Nat.pow_succ]
    ring

@[simp] theorem value_numeral (n : Nat) : value (numeral n) = n := by
  have digit : ∀ d < 10, (digitChar d).toNat - 48 = d := by decide
  induction n using numeral.induct with
  | case1 n small =>
    rw [numeral, if_pos small]
    exact (value_concat [] _).trans (by rw [digit n small]; exact Nat.zero_add n)
  | case2 n large ih =>
    rw [numeral, if_neg large, value_concat, ih, digit _ (Nat.mod_lt n (by decide))]
    exact Nat.div_add_mod n 10

@[simp] theorem value_zeros (k : Nat) : value (List.replicate k '0') = 0 := by
  induction k with
  | zero => rfl
  | succ k ih =>
    rw [List.replicate_succ', value_concat, ih]
    rfl

@[simp] theorem value_padded (width n : Nat) : value (padded width n) = n := by
  simp [padded, value_append]

theorem value_lt (digits : ∀ c ∈ t, c.isDigit = true) : value t < 10 ^ t.length := by
  induction t using List.reverseRecOn with
  | nil => exact Nat.one_pos
  | append_singleton t c ih =>
    have before := ih fun d member => digits d (List.mem_append_left _ member)
    have small := (digitChar_of_isDigit (digits c (List.mem_append_right t (by simp)))).1
    rw [value_concat, List.length_append, List.length_singleton, Nat.pow_succ]
    omega

theorem value_cons (c : Char) (r : Text) :
    value (c :: r) = (c.toNat - 48) * 10 ^ r.length + value r := by
  have first : value [c] = c.toNat - 48 := (value_concat [] c).trans (Nat.zero_add _)
  rw [← first]
  exact value_append [c] r

/-- The first digit in which two texts of digits differ decides on their values. -/
theorem value_cons_lt {c d : Char} (smaller : c.toNat - 48 < d.toNat - 48) (same : t.length = u.length)
    (digits : ∀ x ∈ t, x.isDigit = true) : value (c :: t) < value (d :: u) := by
  have rest := value_lt digits
  calc value (c :: t) = (c.toNat - 48) * 10 ^ t.length + value t := value_cons c t
    _ < (c.toNat - 48 + 1) * 10 ^ t.length := by rw [Nat.succ_mul]; omega
    _ ≤ (d.toNat - 48) * 10 ^ u.length := by
      rw [← same]
      exact Nat.mul_le_mul_right _ smaller
    _ ≤ value (d :: u) := by rw [value_cons]; omega

theorem toNat_of_isDigit {c : Char} (digit : c.isDigit = true) : 48 ≤ c.toNat := by
  have alphanum : c.isAlphanum = true := (Bool.or_eq_true _ _).mpr (.inr digit)
  exact (toNat_of_isAlphanum alphanum).1

theorem le_iff_value_le (same : t.length = u.length) (left : ∀ c ∈ t, c.isDigit = true)
    (right : ∀ c ∈ u, c.isDigit = true) : le t u = true ↔ value t ≤ value u := by
  induction t generalizing u with
  | nil => simp [le, value, ofDigits]
  | cons c t ih =>
    cases u with
    | nil => cases same
    | cons d u =>
      have lengths : t.length = u.length := Nat.succ.inj same
      obtain ⟨digit, others⟩ := List.forall_mem_cons.mp left
      obtain ⟨digit', others'⟩ := List.forall_mem_cons.mp right
      have low := toNat_of_isDigit digit
      have low' := toNat_of_isDigit digit'
      by_cases equal : c = d
      · subst equal
        rw [le, if_pos rfl, ih lengths others others', value_cons, value_cons, lengths]
        omega
      · rw [le, if_neg equal, decide_eq_true_eq]
        rcases lt_or_gt_of_ne equal with before | after
        · have smaller : c.toNat < d.toNat := before
          have less := value_cons_lt (c := c) (d := d) (by omega) lengths others
          exact iff_of_true before (Nat.le_of_lt less)
        · have smaller : d.toNat < c.toNat := after
          have less := value_cons_lt (c := d) (d := c) (by omega) lengths.symm others'
          exact iff_of_false (UInt32.lt_asymm after) (Nat.not_le.mpr less)

end ImageFiling.Text
