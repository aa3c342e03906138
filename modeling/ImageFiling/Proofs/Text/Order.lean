import ImageFiling.Text.Basic
import Mathlib.Data.Char
import Mathlib.Data.List.Lex

/-!
# Order of texts

`Text.le` is the order of lists of characters (`le_iff`). Sorting by texts is stable, and
`find?_mergeSort` draws from this that the first of several with one key stays the first. Where the
order tells the items apart, it does not matter in which order they came (`mergeSort_eq_of_perm`).
-/

namespace ImageFiling.Text

theorem le_iff {t u : Text} : le t u = true ↔ t ≤ u := by
  induction t generalizing u with
  | nil => simp [le, ← not_lt]
  | cons c r ih =>
    cases u with
    | nil => simp [le, ← not_lt]
    | cons d s =>
      rw [← not_lt, List.cons_lt_cons_iff, not_or, not_and, not_lt, not_lt]
      by_cases same : c = d
      · subst same
        simp [le, ih]
      · simp [le, same, Ne.symm same, ← Char.lt_def, lt_iff_le_and_ne]

@[simp] theorem le_refl (t : Text) : le t t = true :=
  le_iff.mpr (Preorder.le_refl t)

theorem le_total (t u : Text) : (le t u || le u t) = true := by
  rw [Bool.or_eq_true, le_iff, le_iff]
  exact LinearOrder.le_total t u

theorem le_trans (t u v : Text) (first : le t u = true) (second : le u v = true) :
    le t v = true := by
  rw [le_iff] at first second ⊢
  exact Preorder.le_trans t u v first second

theorem le_antisymm {t u : Text} (first : le t u = true) (second : le u t = true) : t = u :=
  PartialOrder.le_antisymm t u (le_iff.mp first) (le_iff.mp second)

theorem mergeSort_eq_of_perm {α : Type} {le : α → α → Bool} {l l' : List α}
    (trans : ∀ a b c, le a b = true → le b c = true → le a c = true)
    (total : ∀ a b, (le a b || le b a) = true)
    (antisymm : ∀ a ∈ l, ∀ b ∈ l, le a b = true → le b a = true → a = b) (perm : l.Perm l') :
    l.mergeSort le = l'.mergeSort le := by
  have same : (l.mergeSort le).Perm (l'.mergeSort le) :=
    (List.mergeSort_perm l le).trans (perm.trans (List.mergeSort_perm l' le).symm)
  refine List.Perm.eq_of_pairwise ?_ (List.pairwise_mergeSort trans total l)
    (List.pairwise_mergeSort trans total l') same
  intro a b inside inside'
  have member : b ∈ l := perm.mem_iff.mpr (List.mem_mergeSort.mp inside')
  exact antisymm a (List.mem_mergeSort.mp inside) b member

/-- Those of one key keep their order when a list is sorted by keys. -/
theorem filter_mergeSort {α : Type} (key : α → Text) (k : Text) (l : List α) :
    (l.mergeSort fun a b => le (key a) (key b)).filter (key · = k) = l.filter (key · = k) := by
  have together : (l.filter (key · = k)).Pairwise fun a b => le (key a) (key b) = true := by
    rw [List.pairwise_filter]
    apply List.pairwise_of_forall
    intro a b ka kb
    rw [of_decide_eq_true ka, of_decide_eq_true kb]
    exact le_refl k
  have inside := List.sublist_mergeSort (fun a b c => le_trans (key a) (key b) (key c))
    (fun a b => le_total (key a) (key b)) together List.filter_sublist
  have kept := inside.filter (key · = k)
  rw [List.filter_filter] at kept
  simp only [Bool.and_self] at kept
  refine (kept.eq_of_length ?_).symm
  exact ((List.mergeSort_perm l _).filter _).length_eq.symm

theorem find?_mergeSort {α : Type} (key : α → Text) (k : Text) (l : List α) :
    (l.mergeSort fun a b => le (key a) (key b)).find? (key · = k) = l.find? (key · = k) := by
  rw [← List.head?_filter, filter_mergeSort, List.head?_filter]

end ImageFiling.Text
