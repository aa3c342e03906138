import ImageFiling.Text.Utf8
import Mathlib.Tactic.IntervalCases

/-!
# UTF-8 read back

The bytes of a character are read as this character, whatever follows them, so a text is read back
from its bytes (`decodeForgiving_encode`). A lead byte narrows the byte after it, which is where
overlong forms, surrogates and too large values would begin.
-/

namespace ImageFiling.Utf8

theorem toNat_continuation (v : Nat) : (continuation v).toNat = 0x80 + v % 64 := by
  have small : 0x80 + v % 64 < 256 := by omega
  exact UInt8.toNat_ofNat_of_lt' small

theorem lead_ascii {n : Nat} (ascii : n < 0x80) : lead (UInt8.ofNat n) = .char (Char.ofNat n) := by
  have value : (UInt8.ofNat n).toNat = n := UInt8.toNat_ofNat_of_lt' (Nat.lt_trans ascii (by decide))
  simp only [lead, value]
  rw [if_pos ascii]

theorem lead_two {k : Nat} (least : 2 ≤ k) (greatest : k < 32) :
    lead (UInt8.ofNat (0xC0 + k)) = .start ⟨k, 0, 0x80, 0xBF⟩ := by
  interval_cases k <;> rfl

theorem lead_three {k : Nat} (small : k < 16) :
    lead (UInt8.ofNat (0xE0 + k)) =
      .start ⟨k, 1, if k = 0 then 0xA0 else 0x80, if k = 13 then 0x9F else 0xBF⟩ := by
  interval_cases k <;> rfl

theorem lead_four {k : Nat} (small : k < 5) :
    lead (UInt8.ofNat (0xF0 + k)) =
      .start ⟨k, 2, if k = 0 then 0x90 else 0x80, if k = 4 then 0x8F else 0xBF⟩ := by
  interval_cases k <;> rfl

/-! ### Steps of the decoder -/

variable {b : UInt8} {p : Pending} {bits owed low high v : Nat}

theorem decodeFrom_start (starts : lead b = .start p) (r : Bytes) :
    decodeFrom none (b :: r) = decodeFrom (some p) r := by
  rw [decodeFrom, afterLead, starts]
  rfl

theorem continuation_within (least : low ≤ 0x80 + v % 64) (greatest : 0x80 + v % 64 ≤ high) :
    low ≤ (continuation v).toNat ∧ (continuation v).toNat ≤ high := by
  rw [toNat_continuation]
  exact ⟨least, greatest⟩

theorem decodeFrom_more (least : low ≤ 0x80 + v % 64) (greatest : 0x80 + v % 64 ≤ high) (r : Bytes) :
    decodeFrom (some ⟨bits, owed + 1, low, high⟩) (continuation v :: r) =
      decodeFrom (some ⟨bits * 64 + v % 64, owed, 0x80, 0xBF⟩) r := by
  rw [decodeFrom, afterPending, if_pos (continuation_within least greatest), toNat_continuation,
    Nat.add_sub_cancel_left]
  rfl

theorem decodeFrom_last (least : low ≤ 0x80 + v % 64) (greatest : 0x80 + v % 64 ≤ high) (r : Bytes) :
    decodeFrom (some ⟨bits, 0, low, high⟩) (continuation v :: r) =
      some (Char.ofNat (bits * 64 + v % 64)) :: decodeFrom none r := by
  rw [decodeFrom, afterPending, if_pos (continuation_within least greatest), toNat_continuation,
    Nat.add_sub_cancel_left]
  rfl

/-! ### Characters and texts -/

theorem decodeFrom_encodeChar (c : Char) (r : Bytes) :
    decodeFrom none (encodeChar c ++ r) = some c :: decodeFrom none r := by
  have valid : c.toNat < 0xD800 ∨ 0xDFFF < c.toNat ∧ c.toNat < 0x110000 := c.valid
  have same := Char.ofNat_toNat c
  unfold encodeChar
  generalize c.toNat = v at valid same
  dsimp only
  split
  · next one =>
    rw [List.singleton_append, decodeFrom, afterLead, lead_ascii one, same]
    rfl
  · split
    · next one two =>
      have bits : v / 64 * 64 + v % 64 = v := by omega
      rw [List.cons_append, List.singleton_append,
        decodeFrom_start (lead_two (by omega) (by omega)), decodeFrom_last (by omega) (by omega), bits,
        same]
    · split
      · next one two three =>
        have bits : (v / 4096 * 64 + v / 64 % 64) * 64 + v % 64 = v := by omega
        rw [List.cons_append, List.cons_append, List.singleton_append,
          decodeFrom_start (lead_three (by omega)), decodeFrom_more ?_ ?_,
          decodeFrom_last (by omega) (by omega), bits, same]
        · split <;> omega
        · split <;> omega
      · next one two three =>
        have bits : ((v / 262144 * 64 + v / 4096 % 64) * 64 + v / 64 % 64) * 64 + v % 64 = v := by
          omega
        rw [List.cons_append, List.cons_append, List.cons_append, List.singleton_append,
          decodeFrom_start (lead_four (by omega)), decodeFrom_more ?_ ?_,
          decodeFrom_more (by omega) (by omega), decodeFrom_last (by omega) (by omega), bits, same]
        · split <;> omega
        · split <;> omega

@[simp] theorem decodeFrom_encode (t : Text) : decodeFrom none (encode t) = t.map some := by
  induction t with
  | nil => rfl
  | cons c t ih =>
    change decodeFrom none (encodeChar c ++ encode t) = some c :: t.map some
    rw [decodeFrom_encodeChar, ih]

@[simp] theorem decodeForgiving_encode (t : Text) : decodeForgiving (encode t) = t := by
  rw [decodeForgiving, decodeFrom_encode, List.map_map]
  exact List.map_id t

end ImageFiling.Utf8
