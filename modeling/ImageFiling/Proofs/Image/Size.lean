import ImageFiling.Image.Size
import Mathlib.Algebra.Ring.Nat

/-!
# Sizes that can be told

The size of a content is told if the content has fewer than 2^63 bytes, which no machine exceeds.
-/

namespace ImageFiling

namespace Double

/-- A mantissa that is rounded up to the next power of two leaves the exponents only from the
largest one. -/
theorem rounded_finite (negative : Bool) (mantissa : Nat) {exponent : Int}
    (low : exponent < maxExponent) :
    ∃ m e, (let (mantissa, exponent) :=
        if mantissa = 2 * fullMantissa then (fullMantissa, exponent + 1) else (mantissa, exponent)
      if exponent > maxExponent then infinite negative else finite negative mantissa exponent) =
        finite negative m e := by
  by_cases full : mantissa = 2 * fullMantissa
  · rw [if_pos full]
    exact ⟨fullMantissa, exponent + 1, if_neg (by omega)⟩
  · rw [if_neg full]
    exact ⟨mantissa, exponent, if_neg (by omega)⟩

theorem ofRatio_finite (negative : Bool) {num : Nat} (small : num < 2 ^ 63) (den : Nat) :
    ∃ m e, ofRatio negative num den = finite negative m e := by
  unfold ofRatio
  by_cases zero : num = 0
  · rw [if_pos zero]
    exact ⟨0, minExponent, rfl⟩
  · have bound : num.log2 < 63 := (Nat.log2_lt zero).mpr small
    have low (n d : Nat) : max minExponent (if n ≥ d then (num.log2 : Int) - den.log2 - 52
        else (num.log2 : Int) - den.log2 - 53) < maxExponent := by
      unfold minExponent maxExponent
      split <;> omega
    rw [if_neg zero]
    exact rounded_finite negative _ (low _ _)

end Double

theorem Size.text_ok {n : Nat} (small : n < 2 ^ 63) : ∃ t, text (some (.int n)) = .ok t := by
  have told (fault : Fault) (den : Nat) (units : List Text) :
      ∃ t, finite fault (Double.ofRatio false n den) units = .ok t := by
    obtain ⟨m, e, same⟩ := Double.ofRatio_finite false small den
    rw [same]
    exact ⟨_, rfl⟩
  unfold text
  dsimp only
  split
  · exact ⟨_, rfl⟩
  · split
    · have positive : decide ((n : Int) < 0) = false := by simp
      rw [Double.ofInt, positive, Int.natAbs_natCast]
      exact told _ _ _
    · rw [Int.natAbs_natCast]
      exact told _ _ _

theorem Size.large_of_text_error {n : Nat} {f : Fault} (failed : text (some (.int n)) = .error f) :
    2 ^ 63 ≤ n := by
  rcases Nat.lt_or_ge n (2 ^ 63) with small | large
  · obtain ⟨t, told⟩ := text_ok small
    cases failed.symm.trans told
  · exact large

end ImageFiling
