import ImageFiling.Proofs.Text.Digits
import ImageFiling.Text.Percent

/-!
# Percent encoding and decoding

An encoded text is made of safe characters and escapes. Decoding gives the bytes back that were
encoded, so what was encoded stays the same when it is decoded and encoded anew.
-/

namespace ImageFiling.Percent

theorem upperHexDigit_isAlphanum : ∀ d < 16, (upperHexDigit d).isAlphanum = true := by decide

theorem toNat_of_isUnreserved {c : Char} (unreserved : isUnreserved c = true) :
    0x20 < c.toNat ∧ c.toNat < 0x7F := by
  simp only [isUnreserved, Bool.or_eq_true, beq_iff_eq] at unreserved
  rcases unreserved with (((alphanum | rfl) | rfl) | rfl) | rfl
  · have bounds := Text.toNat_of_isAlphanum alphanum
    omega
  · decide
  · decide
  · decide
  · decide

/-- A byte is written as its character or as an escape. -/
theorem of_mem_encodeByte {safe : Char → Bool} {b : UInt8} {c : Char}
    (member : c ∈ encodeByte safe b) :
    (b.toNat < 128 ∧ c = Char.ofNat b.toNat ∧ safe c = true) ∨ c = '%' ∨ c.isAlphanum = true := by
  simp only [encodeByte] at member
  split at member
  · next kept =>
    rw [List.mem_singleton.mp member]
    exact .inl ⟨kept.1, rfl, kept.2⟩
  · have size := UInt8.toNat_lt b
    rcases List.mem_cons.mp member with percent | digits
    · exact .inr (.inl percent)
    · rcases List.mem_cons.mp digits with rfl | low
      · exact .inr (.inr (upperHexDigit_isAlphanum _ (by omega)))
      · rw [List.mem_singleton.mp low]
        exact .inr (.inr (upperHexDigit_isAlphanum _ (by omega)))

theorem of_mem_encode {safe : Char → Bool} {t : Text} {c : Char} (member : c ∈ encode safe t) :
    safe c = true ∨ c = '%' ∨ c.isAlphanum = true := by
  obtain ⟨b, -, inside⟩ := List.mem_flatMap.mp member
  exact (of_mem_encodeByte inside).imp_left fun kept => kept.2.2

theorem encodeChar_ascii {c : Char} (ascii : c.toNat < 0x80) :
    Utf8.encodeChar c = [UInt8.ofNat c.toNat] := by
  simp only [Utf8.encodeChar, if_pos ascii]

theorem encodeByte_ascii {safe : Char → Bool} {c : Char} (ascii : c.toNat < 0x80)
    (kept : safe c = true) : encodeByte safe (UInt8.ofNat c.toNat) = [c] := by
  have value : (UInt8.ofNat c.toNat).toNat = c.toNat :=
    UInt8.toNat_ofNat_of_lt' (Nat.lt_trans ascii (by decide))
  simp only [encodeByte, value, Char.ofNat_toNat]
  rw [if_pos ⟨ascii, kept⟩]

theorem encode_append (safe : Char → Bool) (t u : Text) :
    encode safe (t ++ u) = encode safe t ++ encode safe u := by
  simp only [encode, encodeBytes, Utf8.encode, List.flatMap_append]

theorem encode_of_safe {safe : Char → Bool} {t : Text}
    (plain : ∀ c ∈ t, c.toNat < 0x80 ∧ safe c = true) : encode safe t = t := by
  induction t with
  | nil => rfl
  | cons c r ih =>
    have first := plain c List.mem_cons_self
    have rest := ih fun d member => plain d (List.mem_cons_of_mem c member)
    have single : encode safe [c] = [c] := by
      simp only [encode, Utf8.encode, encodeBytes, List.flatMap_singleton,
        encodeChar_ascii first.1, encodeByte_ascii first.1 first.2]
    have split := encode_append safe [c] r
    rw [single, rest] at split
    exact split

theorem decodeBytes_cons_ne {c : Char} (plain : c ≠ '%') (r : Text) :
    decodeBytes (c :: r) = Utf8.encodeChar c ++ decodeBytes r := by
  rw [decodeBytes]
  intro high low rest percent
  exact absurd percent plain

theorem hexValue?_upperHexDigit : ∀ d < 16, hexValue? (upperHexDigit d) = some d := by decide

theorem byte?_of_hexValue? {b : UInt8} {high low : Char}
    (first : hexValue? high = some (b.toNat / 16)) (second : hexValue? low = some (b.toNat % 16)) :
    byte? high low = some b := by
  rw [byte?, first, second]
  change some (UInt8.ofNat (16 * (b.toNat / 16) + b.toNat % 16)) = some b
  rw [Nat.div_add_mod, UInt8.ofNat_toNat]

theorem byte?_digits (b : UInt8) :
    byte? (upperHexDigit (b.toNat / 16)) (upperHexDigit (b.toNat % 16)) = some b := by
  have size := UInt8.toNat_lt b
  exact byte?_of_hexValue? (hexValue?_upperHexDigit _ (by omega)) (hexValue?_upperHexDigit _ (by omega))

theorem decodeBytes_escape (b : UInt8) (r : Text) :
    decodeBytes ('%' :: upperHexDigit (b.toNat / 16) :: upperHexDigit (b.toNat % 16) :: r) =
      b :: decodeBytes r := by
  rw [decodeBytes, byte?_digits]

theorem decodeBytes_encodeByte {safe : Char → Bool} (percent : safe '%' = false) (b : UInt8)
    (r : Text) : decodeBytes (encodeByte safe b ++ r) = b :: decodeBytes r := by
  simp only [encodeByte]
  split
  · next kept =>
    have plain : Char.ofNat b.toNat ≠ '%' := by
      intro same
      rw [same, percent] at kept
      exact Bool.false_ne_true kept.2
    have value : (Char.ofNat b.toNat).toNat = b.toNat := by
      have all : ∀ n < 128, (Char.ofNat n).toNat = n := by decide
      exact all b.toNat kept.1
    have ascii : (Char.ofNat b.toNat).toNat < 0x80 := by omega
    rw [List.singleton_append, decodeBytes_cons_ne plain, encodeChar_ascii ascii, value,
      UInt8.ofNat_toNat]
    rfl
  · exact decodeBytes_escape b r

theorem decodeBytes_encodeBytes {safe : Char → Bool} (percent : safe '%' = false) (bytes : Bytes) :
    decodeBytes (encodeBytes safe bytes) = bytes := by
  induction bytes with
  | nil => rfl
  | cons b r ih =>
    change decodeBytes (encodeByte safe b ++ encodeBytes safe r) = b :: r
    rw [decodeBytes_encodeByte percent, ih]

/-- Encoding anew what was encoded changes nothing. -/
theorem encodeBytes_decodeBytes_encode {safe : Char → Bool} (percent : safe '%' = false) (t : Text) :
    encodeBytes safe (decodeBytes (encode safe t)) = encode safe t := by
  unfold encode
  rw [decodeBytes_encodeBytes percent]

end ImageFiling.Percent
