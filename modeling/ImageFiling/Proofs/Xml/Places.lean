import ImageFiling.Xml.Element
import Mathlib.Data.List.Forall2
import Mathlib.Data.List.Lex
import Mathlib.Data.Nat.Basic

/-!
# Places in a tree

The place of an element tells which child to take at each step from the root; places of one depth
stand in the order of the document if they are compared from the left. A look-up by names gives the
elements at the places of these names (`mem_placed`), each once and in this order (`pairwise_placed`).
-/

namespace ImageFiling.Xml.Element

/-- Going down from an element to the children with these numbers, which have these local names, leads
to another element. -/
inductive Reached : Element → List Nat → List Text → Element → Prop where
  | here (e : Element) : Reached e [] [] e
  | down {e child last : Element} {i : Nat} {place : List Nat} {name : Text} {names : List Text}
      (found : e.children[i]? = some child) (named : child.name = name)
      (rest : Reached child place names last) : Reached e (i :: place) (name :: names) last

/-- The elements along names, each with its place. -/
def placed (e : Element) : List Text → List (List Nat × Element)
  | [] => [([], e)]
  | name :: rest =>
    (e.children.zipIdx.filter (·.1.name = name)).flatMap fun c =>
      (c.1.placed rest).map fun p => (c.2 :: p.1, p.2)

theorem map_placed (e : Element) (names : List Text) :
    (e.placed names).map (·.2) = e.along names := by
  induction names generalizing e with
  | nil => rfl
  | cons name rest ih =>
    have numbered : e.named name = (e.children.zipIdx.filter (·.1.name = name)).map (·.1) := by
      unfold named
      conv_lhs => rw [← List.zipIdx_map_fst 0 e.children, List.filter_map]
      rfl
    unfold along placed
    rw [numbered, List.flatMap_map, List.map_flatMap]
    simp only [List.map_map, ← ih]
    rfl

theorem mem_placed {e last : Element} {place : List Nat} {names : List Text} :
    (place, last) ∈ e.placed names ↔ Reached e place names last := by
  induction names generalizing e place with
  | nil =>
    constructor
    · intro member
      cases List.mem_singleton.mp member
      exact .here _
    · intro reached
      cases reached
      exact List.mem_singleton_self _
  | cons name rest ih =>
    simp only [placed, List.mem_flatMap, List.mem_filter, List.mem_map, decide_eq_true_eq]
    constructor
    · rintro ⟨⟨child, i⟩, ⟨numbered, named⟩, ⟨tail, l⟩, inside, same⟩
      cases same
      exact .down (List.mem_zipIdx_iff_getElem?.mp numbered) named (ih.mp inside)
    · intro reached
      cases reached with
      | @down _ child _ i tail _ _ found named below =>
        have numbered : (child, i) ∈ e.children.zipIdx := List.mem_zipIdx_iff_getElem?.mpr found
        exact ⟨(child, i), ⟨numbered, named⟩, (tail, last), ih.mpr below, rfl⟩

theorem pairwise_placed (e : Element) (names : List Text) :
    (e.placed names).Pairwise fun p q => p.1 < q.1 := by
  induction names generalizing e with
  | nil => exact List.pairwise_singleton _ _
  | cons name rest ih =>
    have numbers : e.children.zipIdx.Pairwise fun c d => c.2 < d.2 := by
      rw [← List.pairwise_map, List.zipIdx_map_snd]
      exact List.pairwise_lt_range'
    refine List.pairwise_flatMap.mpr ⟨?_, ?_⟩
    · rintro ⟨child, i⟩ -
      rw [List.pairwise_map]
      exact (ih child).imp List.Lex.cons
    · refine (numbers.sublist List.filter_sublist).imp ?_
      rintro ⟨child, i⟩ ⟨other, j⟩ before p inside q inside'
      obtain ⟨p, -, rfl⟩ := List.mem_map.mp inside
      obtain ⟨q, -, rfl⟩ := List.mem_map.mp inside'
      exact List.Lex.rel before

theorem along_concat (e : Element) (names : List Text) (name : Text) :
    e.along (names ++ [name]) = (e.along names).flatMap (·.named name) := by
  induction names generalizing e with
  | nil =>
    simp only [List.nil_append, along, List.flatMap_singleton]
    exact List.flatMap_singleton' _
  | cons first rest ih =>
    simp only [List.cons_append, along, ih, List.flatMap_assoc]

end ImageFiling.Xml.Element
