import ImageFiling.Text.Case

/-!
# What letter case leaves alone

Case mappings yield letters only. A character before the letters that stands in a mapped text
therefore stood in the text before.
-/

namespace ImageFiling.Text

theorem target_le_of_applyRuns {runs : List CaseRun} {n m bound : Nat}
    (above : ∀ run ∈ runs, bound ≤ run.target) (mapped : applyRuns runs n = some m) : bound ≤ m := by
  obtain ⟨run, member, image⟩ := List.exists_of_findSome?_eq_some mapped
  have target := above run member
  unfold CaseRun.image? at image
  split at image
  · have shifted := Option.some.inj image
    omega
  · cases image

theorem lowerRuns_target : ∀ run ∈ lowerRuns, 65 ≤ run.target := by decide +kernel

theorem upperRuns_target : ∀ run ∈ upperRuns, 65 ≤ run.target := by decide +kernel

theorem upperExpansions_target : ∀ e ∈ upperExpansions, ∀ n ∈ e.2, 65 ≤ n := by decide +kernel

theorem toNat_ofNat (n : Nat) : (Char.ofNat n).toNat = 0 ∨ (Char.ofNat n).toNat = n := by
  by_cases valid : n.isValidChar
  · have found : Char.ofNat n = Char.ofNatAux n valid := dif_pos valid
    rw [found]
    exact .inr rfl
  · have missing : Char.ofNat n = '\x00' := dif_neg valid
    rw [missing]
    exact .inl rfl

theorem toNat_mapped (runs : List CaseRun) (above : ∀ run ∈ runs, 65 ≤ run.target) (c : Char) :
    Char.ofNat ((applyRuns runs c.toNat).getD c.toNat) = c ∨
      (Char.ofNat ((applyRuns runs c.toNat).getD c.toNat)).toNat = 0 ∨
      65 ≤ (Char.ofNat ((applyRuns runs c.toNat).getD c.toNat)).toNat := by
  cases h : applyRuns runs c.toNat with
  | none => exact .inl (Char.ofNat_toNat c)
  | some m =>
    have least : 65 ≤ m := target_le_of_applyRuns above h
    exact .inr ((toNat_ofNat m).imp_right fun same => Nat.le_trans least (Nat.le_of_eq same.symm))

theorem toLower_ascii : ∀ n < 128, (Char.ofNat n).toLower = Char.ofNat n ∨
    65 ≤ (Char.ofNat n).toLower.toNat := by
  decide

theorem toUpper_ascii : ∀ n < 128, (Char.ofNat n).toUpper = Char.ofNat n ∨
    65 ≤ (Char.ofNat n).toUpper.toNat := by
  decide

theorem lowerAfter_ascii {t : Text} (ascii : ∀ c ∈ t, c.toNat < 128) (before : Text) :
    lowerAfter before t = t.map Char.toLower := by
  induction t generalizing before with
  | nil => rfl
  | cons c r ih =>
    have first := ascii c List.mem_cons_self
    have other : c ≠ 'Σ' := by
      rintro rfl
      exact absurd first (by decide)
    rw [lowerAfter, if_neg other, lowerChar, if_pos first,
      ih fun d member => ascii d (List.mem_cons_of_mem c member)]
    rfl

theorem lower_ascii {t : Text} (ascii : ∀ c ∈ t, c.toNat < 128) : lower t = t.map Char.toLower :=
  lowerAfter_ascii ascii []

section

variable {x : Char} (positive : 0 < x.toNat) (small : x.toNat < 65)

include positive small

theorem eq_of_mem_lowerChar {c : Char} (member : x ∈ lowerChar c) : x = c := by
  unfold lowerChar at member
  split at member
  · next ascii =>
    have mapped := List.mem_singleton.mp member
    have cases := toLower_ascii c.toNat ascii
    rw [Char.ofNat_toNat, ← mapped] at cases
    rcases cases with same | letter
    · exact same
    · omega
  · split at member
    · rcases List.mem_cons.mp member with rfl | dot
      · exact absurd small (by decide)
      · rw [List.mem_singleton.mp dot] at small
        exact absurd small (by decide)
    · have mapped := List.mem_singleton.mp member
      have cases := toNat_mapped lowerRuns lowerRuns_target c
      rw [← mapped] at cases
      rcases cases with same | letter
      · exact same
      · omega

theorem mem_of_mem_lower {t : Text} (member : x ∈ lower t) : x ∈ t := by
  unfold lower at member
  generalize ([] : Text) = before at member
  induction t generalizing before with
  | nil => cases member
  | cons c r ih =>
    rw [lowerAfter, List.mem_append] at member
    rcases member with here | later
    · split at here
      · have sigma := List.mem_singleton.mp here
        rw [sigma] at small
        split at small <;> exact absurd small (by decide)
      · rw [eq_of_mem_lowerChar positive small here]
        exact List.mem_cons_self
    · exact List.mem_cons_of_mem c (ih _ later)

theorem eq_of_mem_upperChar {c : Char} (member : x ∈ upperChar c) : x = c := by
  unfold upperChar at member
  split at member
  · next ascii =>
    have mapped := List.mem_singleton.mp member
    have cases := toUpper_ascii c.toNat ascii
    rw [Char.ofNat_toNat, ← mapped] at cases
    rcases cases with same | letter
    · exact same
    · omega
  · split at member
    · next ns found =>
      obtain ⟨n, inside, rfl⟩ := List.mem_map.mp member
      obtain ⟨before, after, table, -⟩ := List.lookup_eq_some_iff.mp found
      have entry : (c.toNat, ns) ∈ upperExpansions := by
        rw [table]
        exact List.mem_append_right _ List.mem_cons_self
      have least := upperExpansions_target _ entry n inside
      have cases := toNat_ofNat n
      omega
    · have mapped := List.mem_singleton.mp member
      have cases := toNat_mapped upperRuns upperRuns_target c
      rw [← mapped] at cases
      rcases cases with same | letter
      · exact same
      · omega

theorem mem_of_mem_upper {t : Text} (member : x ∈ upper t) : x ∈ t := by
  obtain ⟨c, inside, mapped⟩ := List.mem_flatMap.mp member
  rw [eq_of_mem_upperChar positive small mapped]
  exact inside

end

end ImageFiling.Text
