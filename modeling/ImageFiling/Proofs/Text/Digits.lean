import ImageFiling.Text.Quoted
import ImageFiling.Text.Numeral
import Mathlib.Algebra.Ring.Nat
import Mathlib.Data.List.Induction

/-!
# Digits

Numerals and hexadecimal digits are made of visible ASCII characters, so no blank stands in them.
-/

namespace ImageFiling.Text

theorem isBlank_eq_false {c : Char} (above : 0x20 < c.toNat) (below : c.toNat < 0x7F) :
    isBlank c = false := by
  rw [← Bool.not_eq_true]
  intro blank
  simp only [isBlank, isWhite, Bool.or_eq_true, Bool.and_eq_true, decide_eq_true_eq,
    beq_iff_eq] at blank
  omega

theorem toNat_of_isAlphanum {c : Char} (alphanum : c.isAlphanum = true) :
    0x2F < c.toNat ∧ c.toNat < 0x7B := by
  rcases (Bool.or_eq_true _ _).mp alphanum with alpha | digit
  · rcases (Bool.or_eq_true _ _).mp alpha with upper | lower
    · have bounds : 65 ≤ c.toNat ∧ c.toNat ≤ 90 := of_decide_eq_true upper
      omega
    · obtain ⟨first, last⟩ := (Bool.and_eq_true _ _).mp lower
      have least : 97 ≤ c.toNat := of_decide_eq_true first
      have greatest : c.toNat ≤ 122 := of_decide_eq_true last
      omega
  · obtain ⟨first, last⟩ := (Bool.and_eq_true _ _).mp digit
    have least : 48 ≤ c.toNat := of_decide_eq_true first
    have greatest : c.toNat ≤ 57 := of_decide_eq_true last
    omega

/-- A property of ASCII characters is checked for each value. -/
theorem forall_ascii {P : Char → Prop} (each : ∀ n < 128, P (Char.ofNat n)) {c : Char}
    (ascii : c.toNat < 128) : P c := by
  have holds := each c.toNat ascii
  rwa [Char.ofNat_toNat] at holds

theorem isBlank_of_isAlphanum {c : Char} (alphanum : c.isAlphanum = true) : isBlank c = false := by
  have bounds := toNat_of_isAlphanum alphanum
  apply isBlank_eq_false
  · omega
  · omega

theorem digitChar_isDigit : ∀ d < 10, (digitChar d).isDigit = true := by decide

theorem hexDigit_isAlphanum : ∀ d < 16, (hexDigit d).isAlphanum = true := by decide

theorem isDigit_of_mem_numeral {n : Nat} {c : Char} (member : c ∈ numeral n) :
    c.isDigit = true := by
  induction n using numeral.induct with
  | case1 n small =>
    rw [numeral, if_pos small, List.mem_singleton] at member
    subst member
    exact digitChar_isDigit n small
  | case2 n large ih =>
    rw [numeral, if_neg large, List.mem_append, List.mem_singleton] at member
    rcases member with before | rfl
    · exact ih before
    · exact digitChar_isDigit _ (Nat.mod_lt n (by decide))

theorem length_numeral_of_lt {n : Nat} (small : n < 10) : (numeral n).length = 1 := by
  rw [numeral, if_pos small]
  rfl

theorem length_numeral_of_le {n : Nat} (large : 10 ≤ n) :
    (numeral n).length = (numeral (n / 10)).length + 1 := by
  rw [numeral, if_neg (Nat.not_lt.mpr large), List.length_append]
  rfl

theorem length_numeral_pos (n : Nat) : 0 < (numeral n).length := by
  by_cases one : n < 10
  · rw [length_numeral_of_lt one]
    exact Nat.one_pos
  · rw [length_numeral_of_le (Nat.le_of_not_lt one)]
    exact Nat.succ_pos _

theorem length_numeral_le {n k : Nat} (small : n < 10 ^ (k + 1)) : (numeral n).length ≤ k + 1 := by
  induction k generalizing n with
  | zero => exact Nat.le_of_eq (length_numeral_of_lt small)
  | succ k ih =>
    by_cases one : n < 10
    · rw [length_numeral_of_lt one]
      omega
    · have fewer : n / 10 < 10 ^ (k + 1) := Nat.div_lt_of_lt_mul (by rwa [Nat.pow_succ'] at small)
      rw [length_numeral_of_le (Nat.le_of_not_lt one)]
      exact Nat.succ_le_succ (ih fewer)

theorem length_padded {n k : Nat} (small : n < 10 ^ (k + 1)) :
    (padded (k + 1) n).length = k + 1 := by
  have digits := length_numeral_le small
  rw [padded, List.length_append, List.length_replicate]
  omega

theorem length_padded_two {n : Nat} (small : n < 100) : (padded 2 n).length = 2 :=
  length_padded small

theorem isDigit_of_mem_padded {width n : Nat} {c : Char} (member : c ∈ padded width n) :
    c.isDigit = true := by
  rcases List.mem_append.mp member with zero | digit
  · rw [(List.mem_replicate.mp zero).2]
    decide
  · exact isDigit_of_mem_numeral digit

theorem isAlphanum_of_mem_hex {width n : Nat} {c : Char} (member : c ∈ hex width n) :
    c.isAlphanum = true := by
  induction width generalizing n with
  | zero => cases member
  | succ width ih =>
    rcases List.mem_append.mp member with before | last
    · exact ih before
    · rw [List.mem_singleton.mp last]
      exact hexDigit_isAlphanum _ (Nat.mod_lt n (by decide))

/-! ### Reading -/

theorem isDigit_of_isNumeral {t : Text} (numeral : isNumeral t = true) : ∀ c ∈ t, c.isDigit = true :=
  List.all_eq_true.mp ((Bool.and_eq_true _ _).mp numeral).2

theorem digitChar_of_isDigit {c : Char} (digit : c.isDigit = true) :
    c.toNat - 48 < 10 ∧ digitChar (c.toNat - 48) = c := by
  obtain ⟨first, last⟩ := (Bool.and_eq_true _ _).mp digit
  have least : 48 ≤ c.toNat := of_decide_eq_true first
  have greatest : c.toNat ≤ 57 := of_decide_eq_true last
  refine ⟨by omega, ?_⟩
  rw [digitChar, Nat.add_sub_cancel' least, Char.ofNat_toNat]

theorem value_concat (t : Text) (c : Char) : value (t ++ [c]) = 10 * value t + (c.toNat - 48) := by
  simp [value, ofDigits, List.foldl_append]

theorem dropWhile_digitChar : ∀ d < 10,
    [digitChar d].dropWhile (· == '0') = if d = 0 then [] else [digitChar d] := by
  decide

/-- Digits without the zeros before them are the numeral of their value; nothing is left of 0. -/
theorem dropWhile_zero {t : Text} (digits : ∀ c ∈ t, c.isDigit = true) :
    t.dropWhile (· == '0') = if value t = 0 then [] else numeral (value t) := by
  -- A numeral grows at its end, and so does the induction.
  induction t using List.reverseRecOn with
  | nil => rfl
  | append_singleton t c ih =>
    have step := ih fun d member => digits d (List.mem_append_left _ member)
    obtain ⟨small, same⟩ := digitChar_of_isDigit (digits c (List.mem_append_right t (by simp)))
    rw [List.dropWhile_append, step, value_concat]
    generalize c.toNat - 48 = d at small same
    subst same
    by_cases zero : value t = 0
    · have short : numeral d = [digitChar d] := by rw [numeral, if_pos small]
      rw [zero, Nat.mul_zero, Nat.zero_add, short, ← dropWhile_digitChar d small]
      rfl
    · have filled : ¬ (numeral (value t)).isEmpty = true := by
        rw [List.isEmpty_iff]
        exact List.ne_nil_of_length_pos (length_numeral_pos _)
      have positive : ¬ 10 * value t + d = 0 := by omega
      have whole : numeral (10 * value t + d) = numeral (value t) ++ [digitChar d] := by
        rw [numeral, if_neg (by omega)]
        congr 3 <;> omega
      rw [if_neg zero, if_neg positive, whole, if_neg filled]

theorem readNumeral_eq_ok {t : Text} {n : Nat} :
    readNumeral t = .ok n ↔ t.length ≤ digitLimit ∧ value t = n := by
  unfold readNumeral
  split
  · next long => exact ⟨nofun, fun short => absurd short.1 (Nat.not_le.mpr long)⟩
  · next short => simp [Nat.not_lt.mp short]

theorem readNumeral_eq_error {t : Text} {f : LongNumeral} :
    readNumeral t = .error f ↔ digitLimit < t.length ∧ f = ⟨t.length⟩ := by
  unfold readNumeral
  split
  · next long => simp [long, eq_comm]
  · next short => exact ⟨nofun, fun long => absurd long.1 short⟩

theorem le_ofDigits_foldl (ds : List Nat) (n : Nat) :
    n ≤ ds.foldl (fun n d => 10 * n + d) n := by
  induction ds generalizing n with
  | nil => exact Nat.le_refl n
  | cons d ds ih =>
    have step := ih (10 * n + d)
    rw [List.foldl_cons]
    omega

end ImageFiling.Text
