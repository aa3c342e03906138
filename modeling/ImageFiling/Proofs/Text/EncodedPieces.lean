import ImageFiling.Proofs.Text.Percent
import ImageFiling.Proofs.Text.Pieces
import ImageFiling.Proofs.Text.Utf8

/-!
# Encoded texts and their pieces

A percent-encoded text is decoded to the text that it was made of (`decode_encode`). A separator that
is left as it is stands in the encoded text only where it stood before, so a text can be cut before it
is encoded or afterwards (`pieces_encode`).
-/

namespace ImageFiling

namespace Utf8

theorem le_continuation (v : Nat) : 0x80 ≤ (continuation v).toNat := by
  rw [toNat_continuation]
  omega

/-- The bytes of a character outside ASCII are none of ASCII. -/
theorem le_of_mem_encodeChar {b : UInt8} {c : Char} (member : b ∈ encodeChar c)
    (large : 0x80 ≤ c.toNat) : 0x80 ≤ b.toNat := by
  have valid : c.toNat < 0xD800 ∨ 0xDFFF < c.toNat ∧ c.toNat < 0x110000 := c.valid
  have lead {n : Nat} (least : 0x80 ≤ n) (small : n < 0x100) : 0x80 ≤ (UInt8.ofNat n).toNat := by
    rwa [UInt8.toNat_ofNat_of_lt' small]
  have bytes : ∀ b ∈ encodeChar c, 0x80 ≤ b.toNat := by
    unfold encodeChar
    simp only [Nat.not_lt.mpr large, if_false]
    split
    · simp only [List.forall_mem_cons]
      exact ⟨lead (by omega) (by omega), le_continuation _, nofun⟩
    · split
      · simp only [List.forall_mem_cons]
        exact ⟨lead (by omega) (by omega), le_continuation _, le_continuation _, nofun⟩
      · simp only [List.forall_mem_cons]
        exact ⟨lead (by omega) (by omega), le_continuation _, le_continuation _, le_continuation _,
          nofun⟩
  exact bytes b member

end Utf8

namespace Percent

variable {safe : Char → Bool}

@[simp] theorem decode_encode (percent : safe '%' = false) (t : Text) : decode (encode safe t) = t := by
  simp [decode, encode, decodeBytes_encodeBytes percent]

theorem encode_joined (safe : Char → Bool) (separator : Text) (ts : List Text) :
    encode safe (Text.joined separator ts) =
      Text.joined (encode safe separator) (ts.map (encode safe)) := by
  induction ts with
  | nil => rfl
  | cons t rest ih =>
    cases rest with
    | nil => rfl
    | cons u rest =>
      rw [Text.joined, encode_append, encode_append, ih]
      rfl

theorem eq_of_mem_encodeChar {b : UInt8} {c : Char} (member : b ∈ Utf8.encodeChar c)
    (ascii : b.toNat < 0x80) : Char.ofNat b.toNat = c := by
  have small : c.toNat < 0x80 := by
    by_contra large
    exact Nat.not_le.mpr ascii (Utf8.le_of_mem_encodeChar member (Nat.not_lt.mp large))
  rw [encodeChar_ascii small, List.mem_singleton] at member
  rw [member, UInt8.toNat_ofNat_of_lt' (Nat.lt_trans small (by decide)), Char.ofNat_toNat]

/-- A character that is not used in escapes comes into an encoded text only out of the text. -/
theorem not_mem_encode {c : Char} (percent : c ≠ '%') (plain : c.isAlphanum = false) {t : Text}
    (clean : c ∉ t) : c ∉ encode safe t := by
  intro member
  obtain ⟨b, inBytes, inside⟩ := List.mem_flatMap.mp member
  obtain ⟨d, inText, byte⟩ := List.mem_flatMap.mp inBytes
  rcases of_mem_encodeByte inside with ⟨ascii, rfl, -⟩ | escape | digit
  · rw [eq_of_mem_encodeChar byte ascii] at clean
    exact clean inText
  · exact percent escape
  · cases plain.symm.trans digit

/-- Cutting at a separator that is left as it is may be done before encoding or afterwards. -/
theorem pieces_encode {c : Char} (ascii : c.toNat < 0x80) (kept : safe c = true) (percent : c ≠ '%')
    (plain : c.isAlphanum = false) (t : Text) :
    Text.pieces c (encode safe t) = (Text.pieces c t).map (encode safe) := by
  have separator : encode safe [c] = [c] :=
    encode_of_safe fun d member => List.mem_singleton.mp member ▸ ⟨ascii, kept⟩
  have clean : ∀ piece ∈ (Text.pieces c t).map (encode safe), c ∉ piece := by
    intro piece member
    obtain ⟨u, inPieces, rfl⟩ := List.mem_map.mp member
    refine not_mem_encode percent plain fun inside => ?_
    exact absurd (Text.of_mem_piecesBy inPieces inside).1 (by simp)
  have some : (Text.pieces c t).map (encode safe) ≠ [] := by
    simp
  calc Text.pieces c (encode safe t)
      = Text.pieces c (encode safe (Text.joined [c] (Text.pieces c t))) := by
        rw [Text.joined_pieces]
    _ = Text.pieces c (Text.joined [c] ((Text.pieces c t).map (encode safe))) := by
        rw [encode_joined, separator]
    _ = (Text.pieces c t).map (encode safe) := Text.pieces_joined some clean

end Percent

end ImageFiling
