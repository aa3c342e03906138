import ImageFiling.Proofs.Result
import ImageFiling.Text.Base64

/-!
# Base64 that is read back

Bytes in base64 are read back, whatever characters outside the alphabet are put between the
characters (`decode_of_filter`): these are passed over, and padding is read where the quad ends.
-/

namespace ImageFiling.Base64

/-- Whether a character has a meaning in base64: the alphabet and the padding. -/
def isMeant (c : Char) : Bool := c.isAlphanum || c == '+' || c == '/' || c == '='

theorem sextet?_of_not_isMeant {c : Char} (strange : isMeant c = false) :
    c ≠ '=' ∧ sextet? c = none := by
  simp only [isMeant, Bool.or_eq_false_iff, beq_eq_false_iff_ne] at strange
  obtain ⟨⟨⟨alphanum, plus⟩, slash⟩, padding⟩ := strange
  obtain ⟨alpha, digit⟩ := (Bool.or_eq_false_iff (x := c.isAlpha) (y := c.isDigit)).mp alphanum
  obtain ⟨upper, lower⟩ := (Bool.or_eq_false_iff (x := c.isUpper) (y := c.isLower)).mp alpha
  have notUpper : ¬ ('A' ≤ c ∧ c ≤ 'Z') := of_decide_eq_false upper
  have notLower : ¬ ('a' ≤ c ∧ c ≤ 'z') := by
    rintro ⟨least, most⟩
    have : c.isLower = true := Bool.and_eq_true_iff.mpr ⟨decide_eq_true least, decide_eq_true most⟩
    exact Bool.false_ne_true (lower.symm.trans this)
  simp [sextet?, notUpper, notLower, digit, plus, slash, padding]

theorem decodeFrom_filter (t : Text) (quad : List Nat) (pads count : Nat) :
    decodeFrom quad pads count (t.filter isMeant) = decodeFrom quad pads count t := by
  induction t generalizing quad pads count with
  | nil => rfl
  | cons c r ih =>
    by_cases meant : isMeant c = true
    · rw [List.filter_cons_of_pos meant, decodeFrom, decodeFrom]
      simp only [ih]
    · obtain ⟨padding, strange⟩ := sextet?_of_not_isMeant (Bool.eq_false_iff.mpr meant)
      rw [List.filter_cons_of_neg meant, ih, decodeFrom, if_neg padding, strange]

/-! ### What is written -/

theorem sextet?_sextetChar : ∀ v < 64, sextetChar v ≠ '=' ∧ sextet? (sextetChar v) = some v := by
  decide

theorem decodeFrom_sextet {quad : List Nat} (short : quad.length ≠ 3) {v : Nat} (small : v < 64)
    (pads count : Nat) (r : Text) :
    decodeFrom quad pads count (sextetChar v :: r) = decodeFrom (quad ++ [v]) 0 (count + 1) r := by
  obtain ⟨padding, sextet⟩ := sextet?_sextetChar v small
  rw [decodeFrom, if_neg padding, sextet]
  exact if_neg short

theorem decodeFrom_last {quad : List Nat} (full : quad.length = 3) {v : Nat} (small : v < 64)
    (pads count : Nat) (r : Text) :
    decodeFrom quad pads count (sextetChar v :: r) =
      (decodeFrom [] 0 (count + 1) r).map (ofQuad (quad ++ [v]) ++ ·) := by
  obtain ⟨padding, sextet⟩ := sextet?_sextetChar v small
  rw [decodeFrom, if_neg padding, sextet]
  exact if_pos full

theorem ofNat_eq {b : UInt8} {n : Nat} (same : n = b.toNat) : UInt8.ofNat n = b := by
  rw [same, UInt8.ofNat_toNat]

theorem ofQuad_two (a : UInt8) : ofQuad [a.toNat / 4, a.toNat % 4 * 16] = [a] := by
  have first : UInt8.ofNat (a.toNat / 4 * 4 + a.toNat % 4 * 16 / 16) = a := ofNat_eq (by omega)
  rw [ofQuad, first]

theorem ofQuad_three (a b : UInt8) :
    ofQuad [a.toNat / 4, a.toNat % 4 * 16 + b.toNat / 16, b.toNat % 16 * 4] = [a, b] := by
  have size := b.toNat_lt
  have first : UInt8.ofNat (a.toNat / 4 * 4 + (a.toNat % 4 * 16 + b.toNat / 16) / 16) = a :=
    ofNat_eq (by omega)
  have second : UInt8.ofNat ((a.toNat % 4 * 16 + b.toNat / 16) % 16 * 16 + b.toNat % 16 * 4 / 4) = b :=
    ofNat_eq (by omega)
  rw [ofQuad, first, second]

theorem ofQuad_four (a b c : UInt8) :
    ofQuad [a.toNat / 4, a.toNat % 4 * 16 + b.toNat / 16, b.toNat % 16 * 4 + c.toNat / 64,
      c.toNat % 64] = [a, b, c] := by
  have size := b.toNat_lt
  have size' := c.toNat_lt
  have first : UInt8.ofNat (a.toNat / 4 * 4 + (a.toNat % 4 * 16 + b.toNat / 16) / 16) = a :=
    ofNat_eq (by omega)
  have second : UInt8.ofNat ((a.toNat % 4 * 16 + b.toNat / 16) % 16 * 16 +
      (b.toNat % 16 * 4 + c.toNat / 64) / 4) = b := ofNat_eq (by omega)
  have third : UInt8.ofNat ((b.toNat % 16 * 4 + c.toNat / 64) % 4 * 64 + c.toNat % 64) = c :=
    ofNat_eq (by omega)
  rw [ofQuad, first, second, third]

theorem decodeFrom_encode (bytes : Bytes) (count : Nat) :
    decodeFrom [] 0 count (encode bytes) = .ok bytes := by
  fun_induction encode bytes generalizing count with
  | case1 => rfl
  | case2 a =>
    have size := a.toNat_lt
    rw [decodeFrom_sextet (by simp) (by omega), decodeFrom_sextet (by simp) (by omega)]
    exact congrArg Except.ok (ofQuad_two a)
  | case3 a b =>
    have size := a.toNat_lt
    have size' := b.toNat_lt
    rw [decodeFrom_sextet (by simp) (by omega), decodeFrom_sextet (by simp) (by omega),
      decodeFrom_sextet (by simp) (by omega)]
    exact congrArg Except.ok (ofQuad_three a b)
  | case4 a b c r ih =>
    have size := a.toNat_lt
    have size' := b.toNat_lt
    have size'' := c.toNat_lt
    rw [decodeFrom_sextet (by simp) (by omega), decodeFrom_sextet (by simp) (by omega),
      decodeFrom_sextet (by simp) (by omega), decodeFrom_last (by rfl) (by omega), ih]
    exact congrArg (fun quad => Except.ok (quad ++ r)) (ofQuad_four a b c)

/-- Bytes are read back from their base64 with any other ASCII characters in it. -/
theorem decode_of_filter {bytes : Bytes} {t : Text} (ascii : ∀ c ∈ t, c.toNat < 128)
    (meant : t.filter isMeant = encode bytes) : decode t = .ok bytes := by
  have all : t.all (·.toNat < 128) = true := by simpa using ascii
  rw [decode, if_pos all, ← decodeFrom_filter, meant, decodeFrom_encode]

end ImageFiling.Base64
