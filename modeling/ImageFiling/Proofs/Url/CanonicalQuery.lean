import ImageFiling.Proofs.Text.EncodedPieces
import ImageFiling.Proofs.Text.Order
import ImageFiling.Proofs.Url.Query

/-!
# Canonical queries

The canonical form of a query spells the pairs that the query is read as, each in the one way that
encoding gives, in the order of the encoded pairs. It is therefore read as the same pairs, and it is
its own canonical form (`canonical_normal`). The order of the pieces of a query does not matter to it
(`canonical_eq_of_perm`).
-/

namespace ImageFiling.Query

/-- A text of unreserved characters and of escapes with digits in upper case. -/
inductive IsEncoded : Text → Prop where
  | nil : IsEncoded []
  | plain {c : Char} {t : Text} (kept : Percent.isUnreserved c = true) (rest : IsEncoded t) :
    IsEncoded (c :: t)
  | escape {high low : Nat} {t : Text} (first : high < 16) (second : low < 16)
    (rest : IsEncoded t) :
    IsEncoded ('%' :: Percent.upperHexDigit high :: Percent.upperHexDigit low :: t)

/-- Order by the name, then by the value. -/
def InOrder (p q : Text × Text) : Prop := p.1 < q.1 ∨ p.1 = q.1 ∧ p.2 ≤ q.2

/-- A piece of a query for a pair of encoded texts. -/
def written (pair : Text × Text) : Text := pair.1 ++ '=' :: pair.2

/-! ### The order of pairs -/

theorem pairLe_iff {p q : Text × Text} : pairLe p q = true ↔ InOrder p q := by
  unfold pairLe InOrder
  by_cases same : p.1 = q.1
  · simp [same, Text.le_iff]
  · rw [if_neg same, Text.le_iff, le_iff_lt_or_eq]
    simp [same]

theorem pairLe_total (p q : Text × Text) : (pairLe p q || pairLe q p) = true := by
  unfold pairLe
  by_cases same : p.1 = q.1
  · rw [if_pos same, if_pos same.symm]
    exact Text.le_total p.2 q.2
  · rw [if_neg same, if_neg (Ne.symm same)]
    exact Text.le_total p.1 q.1

theorem pairLe_trans (p q r : Text × Text) (first : pairLe p q = true)
    (second : pairLe q r = true) : pairLe p r = true := by
  rw [pairLe_iff] at first second ⊢
  rcases first with before | ⟨same, le⟩
  · rcases second with before' | ⟨same', -⟩
    · exact .inl (before.trans before')
    · exact .inl (same' ▸ before)
  · rcases second with before' | ⟨same', le'⟩
    · exact .inl (same ▸ before')
    · exact .inr ⟨same.trans same', le.trans le'⟩

theorem pairLe_antisymm {p q : Text × Text} (first : pairLe p q = true)
    (second : pairLe q p = true) : p = q := by
  rw [pairLe_iff] at first second
  rcases first with before | ⟨same, le⟩
  · rcases second with after | ⟨same, -⟩
    · exact (before.asymm after).elim
    · exact (before.ne same.symm).elim
  · rcases second with after | ⟨-, le'⟩
    · exact (after.ne same.symm).elim
    · exact Prod.ext same (le.antisymm le')

/-! ### Encoded parts -/

theorem isLiteral_of_isUnreserved {c : Char} (kept : Percent.isUnreserved c = true) :
    c.toNat < 0x80 ∧ isLiteral c = true := by
  have bounds := Percent.toNat_of_isUnreserved kept
  have ascii : c.toNat < 0x80 := by omega
  refine ⟨ascii, ?_⟩
  exact Text.forall_ascii (P := fun c => Percent.isUnreserved c = true → isLiteral c = true)
    (by decide) ascii kept

theorem isEncoded_encodeBytes (bytes : Bytes) :
    IsEncoded (Percent.encodeBytes Percent.isUnreserved bytes) := by
  induction bytes with
  | nil => exact .nil
  | cons b r ih =>
    have size := UInt8.toNat_lt b
    show IsEncoded (Percent.encodeByte Percent.isUnreserved b ++
      Percent.encodeBytes Percent.isUnreserved r)
    unfold Percent.encodeByte
    dsimp only
    split
    · next kept => exact .plain kept.2 ih
    · exact .escape (by omega) (by omega) ih

/-- A byte that is not left as it is. -/
theorem isEscape_encodeByte {b : UInt8}
    (other : ¬ (b.toNat < 128 ∧ Percent.isUnreserved (Char.ofNat b.toNat) = true)) :
    IsEscape b (Percent.encodeByte Percent.isUnreserved b) := by
  have size := UInt8.toNat_lt b
  refine ⟨_, _, .upper (by omega), .upper (by omega), ?_⟩
  unfold Percent.encodeByte
  exact if_neg other

theorem escapes_of_bytes {bytes : Bytes} (other : ∀ b ∈ bytes,
    ¬ (b.toNat < 128 ∧ Percent.isUnreserved (Char.ofNat b.toNat) = true)) :
    List.Forall₂ IsEscape bytes (bytes.map (Percent.encodeByte Percent.isUnreserved)) := by
  rw [List.forall₂_map_right_iff, List.forall₂_same]
  exact fun b member => isEscape_encodeByte (other b member)

theorem spells_encode (t : Text) : Spells (Percent.encode Percent.isUnreserved t) t := by
  induction t with
  | nil => exact .nil
  | cons c t ih =>
    have parts : Percent.encode Percent.isUnreserved (c :: t) =
        Percent.encode Percent.isUnreserved [c] ++ Percent.encode Percent.isUnreserved t :=
      Percent.encode_append Percent.isUnreserved [c] t
    rw [parts]
    by_cases kept : Percent.isUnreserved c = true
    · obtain ⟨ascii, plain⟩ := isLiteral_of_isUnreserved kept
      have single : Percent.encode Percent.isUnreserved [c] = [c] :=
        Percent.encode_of_safe fun d member => List.mem_singleton.mp member ▸ ⟨ascii, kept⟩
      rw [single]
      exact .literal plain ih
    · have bytes : Percent.encode Percent.isUnreserved [c] =
          ((Utf8.encodeChar c).map (Percent.encodeByte Percent.isUnreserved)).flatten := by
        simp [Percent.encode, Percent.encodeBytes, Utf8.encode, List.flatMap]
      rw [bytes]
      refine .escaped (escapes_of_bytes fun b member => ?_) ih
      rintro ⟨ascii, safe⟩
      rw [Percent.eq_of_mem_encodeChar member ascii] at safe
      exact kept safe

/-! ### The pairs of a canonical query -/

/-- The pairs of a query in the order of their encoded forms. -/
def ordered (query : Text) : List (Text × Text) :=
  (pairs query).mergeSort fun p q => pairLe (encodePair p) (encodePair q)

theorem ordered_perm (query : Text) : (ordered query).Perm (pairs query) := List.mergeSort_perm _ _

theorem map_ordered (query : Text) :
    (ordered query).map encodePair = ((pairs query).map encodePair).mergeSort pairLe :=
  List.map_mergeSort fun _ _ _ _ => rfl

theorem canonical_eq (query : Text) :
    canonical query = Text.joined ['&'] (((ordered query).map encodePair).map written) := by
  rw [map_ordered]
  rfl

theorem isPair_written (pair : Text × Text) : IsPair (written (encodePair pair)) pair :=
  ⟨_, _, spells_encode pair.1, spells_encode pair.2, rfl⟩

theorem pairs_canonical (query : Text) : pairs (canonical query) = ordered query := by
  rw [canonical_eq]
  apply pairs_joined
  have filled : ((ordered query).map encodePair).map written =
      (((ordered query).map encodePair).map written).filter (!·.isEmpty) := by
    refine (List.filter_eq_self.mpr ?_).symm
    intro piece member
    obtain ⟨pair, -, rfl⟩ := List.mem_map.mp member
    simp [written]
  rw [← filled, List.map_map, List.forall₂_map_left_iff, List.forall₂_same]
  exact fun pair _ => isPair_written pair

theorem ordered_pairwise (query : Text) :
    ((ordered query).map encodePair).Pairwise fun p q => pairLe p q = true := by
  rw [map_ordered]
  exact List.pairwise_mergeSort pairLe_trans pairLe_total _

theorem canonical_canonical (query : Text) : canonical (canonical query) = canonical query := by
  have sorted : ((pairs (canonical query)).map encodePair).mergeSort pairLe =
      (ordered query).map encodePair := by
    rw [pairs_canonical]
    exact List.mergeSort_of_pairwise (ordered_pairwise query)
  rw [canonical_eq (canonical query), map_ordered, sorted, ← canonical_eq]

/-- The canonical form of a query is read as the pairs of the query. It joins a piece for each of them,
sorted by encoded name and then by encoded value, and it is its own canonical form. -/
theorem canonical_normal (query : Text) :
    (pairs (canonical query)).Perm (pairs query) ∧
    (∃ encoded : List (Text × Text),
      canonical query = Text.joined ['&'] (encoded.map fun e => e.1 ++ '=' :: e.2) ∧
      encoded.Pairwise InOrder ∧ (∀ e ∈ encoded, IsEncoded e.1 ∧ IsEncoded e.2) ∧
      encoded.map (fun e => (Percent.decode e.1, Percent.decode e.2)) = pairs (canonical query)) ∧
    canonical (canonical query) = canonical query := by
  refine ⟨?_, ⟨(ordered query).map encodePair, canonical_eq query, ?_, ?_, ?_⟩,
    canonical_canonical query⟩
  · rw [pairs_canonical]
    exact ordered_perm query
  · exact (ordered_pairwise query).imp pairLe_iff.mp
  · intro e member
    obtain ⟨pair, -, rfl⟩ := List.mem_map.mp member
    exact ⟨isEncoded_encodeBytes _, isEncoded_encodeBytes _⟩
  · rw [pairs_canonical, List.map_map]
    refine (List.map_congr_left fun pair _ => ?_).trans (List.map_id _)
    exact Prod.ext (Percent.decode_encode (by decide) pair.1)
      (Percent.decode_encode (by decide) pair.2)

/-- An escape that is none, a byte that is no UTF-8, an empty piece and a piece without a value. -/
example : canonical "b=%zz+%e4&&a&A=%2f" = "A=%2F&a=&b=%25zz%20%EF%BF%BD" := by
  cbv

/-! ### Pieces in another order -/

theorem canonical_eq_of_perm {query query' : Text}
    (pieces : (Text.pieces '&' query).Perm (Text.pieces '&' query')) :
    canonical query = canonical query' := by
  have same : ((pairs query).map encodePair).Perm ((pairs query').map encodePair) :=
    ((pieces.filter _).map _).map _
  have sorted : ((pairs query).map encodePair).mergeSort pairLe =
      ((pairs query').map encodePair).mergeSort pairLe :=
    Text.mergeSort_eq_of_perm pairLe_trans pairLe_total (fun _ _ _ _ => pairLe_antisymm) same
  rw [canonical_eq, canonical_eq, map_ordered, map_ordered, sorted]

end ImageFiling.Query
